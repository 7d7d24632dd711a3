import WorkflowGraph.Failure

/-!
# Runs that can be stopped

Every long operation asks from time to time whether it was told to stop, and writes messages on
its way.  A run is a function of the moment at which it is told to stop: `patience` counts how
many more questions are answered with "go on", and once it is used up every further question
ends the run with the failure `cancelled`.  A run without a stop has no limit.

`Run.poll` asks the question, `Run.say` writes a message, `Run.stop` is the order to stop.
-/

namespace WorkflowGraph

/-- How important a message is. -/
inductive Level where
  | debug
  | info
  | warn
deriving DecidableEq, Repr

/-- A message of a run. -/
structure Message where
  level : Level
  text : String
deriving DecidableEq, Repr

/-- What a run carries along: how long it goes on, and its messages, newest first. -/
structure Session where
  patience : Option Nat := none
  said : List Message := []
deriving DecidableEq, Repr

/-- The messages of a session in the order in which they were written. -/
def Session.messages (session : Session) : List Message := session.said.reverse

/-- An operation that can be stopped, can fail and writes messages. -/
def Run (α : Type) : Type := Session → Except Failure α × Session

namespace Run

instance : Monad Run where
  pure a := fun session => (.ok a, session)
  bind first next := fun session =>
    match first session with
    | (.ok a, session) => next a session
    | (.error failure, session) => (.error failure, session)

instance : LawfulMonad Run := LawfulMonad.mk' Run
  (fun x => by
    funext session
    show (match x session with
      | (.ok a, session) => (Except.ok (id a), session)
      | (.error failure, session) => (.error failure, session)) = x session
    rcases x session with ⟨_ | _, _⟩ <;> rfl)
  (fun _ _ => rfl)
  (fun x f g => by
    funext session
    show (match (match x session with
        | (.ok a, session) => f a session
        | (.error failure, session) => (.error failure, session)) with
      | (.ok b, session) => g b session
      | (.error failure, session) => (.error failure, session)) =
      (match x session with
      | (.ok a, session) => (match f a session with
        | (.ok b, session) => g b session
        | (.error failure, session) => (.error failure, session))
      | (.error failure, session) => (.error failure, session))
    rcases x session with ⟨_ | _, _⟩ <;> rfl)

/-- Ends the run with a failure. -/
def fail {α : Type} (failure : Failure) : Run α := fun session => (.error failure, session)

/-- Goes on with a value or ends with a failure. -/
def ofExcept {α : Type} (result : Except Failure α) : Run α := fun session => (result, session)

/-- Asks whether the run was told to stop. -/
def poll : Run Unit := fun session =>
  match session.patience with
  | none => (.ok (), session)
  | some 0 => (.error .cancelled, session)
  | some (left + 1) => (.ok (), { session with patience := some left })

/-- Tells the run to stop: the next question ends it. -/
def stop : Run Unit := fun session => (.ok (), { session with patience := some 0 })

/-- Writes a message. -/
def say (level : Level) (text : String) : Run Unit := fun session =>
  (.ok (), { session with said := ⟨level, text⟩ :: session.said })

def debug (text : String) : Run Unit := say .debug text

def info (text : String) : Run Unit := say .info text

def warn (text : String) : Run Unit := say .warn text

/-- The outcome of a run that nobody stops. -/
def outcome {α : Type} (run : Run α) : Except Failure α := (run {}).1

/-- Does something for every item of a list, one after the other. -/
def each {α : Type} (items : List α) (action : α → Run Unit) : Run Unit :=
  match items with
  | [] => pure ()
  | item :: others => do
    action item
    each others action

/-- Carries a state through the items of a list. -/
def fold {α β : Type} (items : List α) (start : β) (step : β → α → Run β) : Run β :=
  match items with
  | [] => pure start
  | item :: others => do
    fold others (← step start item) step

end Run

end WorkflowGraph
