import WorkflowGraph.Files.Basic
import WorkflowGraph.Run

/-!
# Commands on files

A command reads and writes files, writes messages, and can fail.  What it did before it failed
stays done: the files that it leaves are part of its outcome either way.

A failure of a command tells what the command was doing, from the outermost step to the
innermost, and then its cause.
-/

namespace WorkflowGraph

/-- The cause of a failure. -/
inductive Cause where
  | failure (reason : Failure)
  /-- A fault of a file that no failure of the library describes. -/
  | fault (reason : FileFault)
deriving DecidableEq, Repr

/-- The texts of a cause, from the outermost to the innermost. -/
def Cause.texts : Cause → List String
  | failure (.file reason) => [(Failure.file reason).message, reason.message]
  | failure reason => [reason.message]
  | fault reason => [reason.message]

/-- Why a command failed: what it was doing, outermost first, and the cause. -/
structure CommandFailure where
  contexts : List String := []
  cause : Cause
deriving DecidableEq, Repr

/-- All texts of a failure, from the outermost to the innermost. -/
def CommandFailure.texts (failure : CommandFailure) : List String :=
  failure.contexts ++ failure.cause.texts

/-- What a command carries along. -/
structure ShellState where
  files : Files := {}
  session : Session := {}

/-- A command on files. -/
def Shell (α : Type) : Type := ShellState → Except CommandFailure α × ShellState

namespace Shell

instance : Monad Shell where
  pure a := fun state => (.ok a, state)
  bind first next := fun state =>
    match first state with
    | (.ok a, state) => next a state
    | (.error failure, state) => (.error failure, state)

instance : LawfulMonad Shell := LawfulMonad.mk' Shell
  (fun x => by
    funext state
    show (match x state with
      | (.ok a, state) => (Except.ok (id a), state)
      | (.error failure, state) => (.error failure, state)) = x state
    rcases x state with ⟨_ | _, _⟩ <;> rfl)
  (fun _ _ => rfl)
  (fun x f g => by
    funext state
    show (match (match x state with
        | (.ok a, state) => f a state
        | (.error failure, state) => (.error failure, state)) with
      | (.ok b, state) => g b state
      | (.error failure, state) => (.error failure, state)) =
      (match x state with
      | (.ok a, state) => (match f a state with
        | (.ok b, state) => g b state
        | (.error failure, state) => (.error failure, state))
      | (.error failure, state) => (.error failure, state))
    rcases x state with ⟨_ | _, _⟩ <;> rfl)

/-- Ends the command with a cause. -/
def fail {α : Type} (cause : Cause) : Shell α := fun state => (.error { cause }, state)

/-- A run as a command. -/
def ofRun {α : Type} (run : Run α) : Shell α := fun state =>
  match run state.session with
  | (.ok a, session) => (.ok a, { state with session })
  | (.error failure, session) => (.error { cause := .failure failure }, { state with session })

/-- The files as they are now. -/
def files : Shell Files := fun state => (.ok state.files, state)

/-- Reads from the files; a fault is a failure of the library. -/
def read {α : Type} (action : Files → Except FileFault α) : Shell α := fun state =>
  match action state.files with
  | .ok a => (.ok a, state)
  | .error fault => (.error { cause := .failure (.file fault) }, state)

/-- Changes the files; a fault is a failure of the library. -/
def write (action : Files → Except FileFault Files) : Shell Unit := fun state =>
  match action state.files with
  | .ok files => (.ok (), { state with files })
  | .error fault => (.error { cause := .failure (.file fault) }, state)

/-- Makes a directory and those on the way to it; `cause` says what a fault means. -/
def makeDirectories (path : String) (cause : FileFault → Cause) : Shell Unit := fun state =>
  match state.files.makeDirectories path with
  | (.ok (), files) => (.ok (), { state with files })
  | (.error fault, files) => (.error { cause := cause fault }, { state with files })

/-- Tells what the command is doing, should it fail. -/
def doing {α : Type} (context : String) (command : Shell α) : Shell α := fun state =>
  match command state with
  | (.ok a, state) => (.ok a, state)
  | (.error failure, state) =>
    (.error { failure with contexts := context :: failure.contexts }, state)

def debug (text : String) : Shell Unit := ofRun (Run.debug text)

def info (text : String) : Shell Unit := ofRun (Run.info text)

def warn (text : String) : Shell Unit := ofRun (Run.warn text)

/-- Does something for every item of a list, one after the other. -/
def each {α : Type} (items : List α) (action : α → Shell Unit) : Shell Unit :=
  match items with
  | [] => pure ()
  | item :: others => do
    action item
    each others action

end Shell

end WorkflowGraph
