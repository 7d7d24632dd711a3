import WorkflowGraph.Proofs.Runs
import WorkflowGraph.Shell

/-!
# Commands that nobody stops

A command reads and writes files and can be told to stop.  Where nobody tells it to, and where it
does not write, all that matters of its state are the files: `Shell.Yields` says that a command
ends with a certain value whenever it finds certain files, and leaves them as they are.

As with runs there is one rule for each way of writing a command.  `Shell.Yields.bind_apply` hands
the value over to whatever comes next.
-/

namespace WorkflowGraph

/-- The state of a command that finds the given files and that nobody stops. -/
structure ShellState.Calm (files : Files) (state : ShellState) : Prop where
  files : state.files = files
  patience : state.session.patience = none

namespace Shell

variable {α β : Type} {files : Files}

/-- The command ends with `a` where it finds the files, and leaves them. -/
def Yields (files : Files) (command : Shell α) (a : α) : Prop :=
  ∀ state, state.Calm files → ∃ after, after.Calm files ∧ command state = (.ok a, after)

theorem yields_pure (a : α) : Yields files (pure a : Shell α) a :=
  fun state hstate => ⟨state, hstate, rfl⟩

/-- What comes after a command that yields a value starts with that value, in a calm state. -/
theorem Yields.bind_apply {command : Shell α} {a : α} (h : Yields files command a)
    (next : α → Shell β) {state : ShellState} (hstate : state.Calm files) :
    ∃ after, after.Calm files ∧ (command >>= next) state = next a after := by
  obtain ⟨after, hafter, hcommand⟩ := h state hstate
  refine ⟨after, hafter, ?_⟩
  simp only [bind, hcommand]

theorem Yields.bind {command : Shell α} {next : α → Shell β} {a : α} {b : β}
    (hcommand : Yields files command a) (hnext : Yields files (next a) b) :
    Yields files (command >>= next) b := by
  intro state hstate
  obtain ⟨middle, hmiddle, heq⟩ := hcommand.bind_apply next hstate
  rw [heq]
  exact hnext middle hmiddle

/-- A run yields what it computes. -/
theorem yields_ofRun {run : Run α} {a : α} (h : run.Computes a) : Yields files (ofRun run) a := by
  intro state hstate
  have hkeep := h.unlimited state.session hstate.patience
  have hanswer := h.answer state.session
  unfold ofRun
  rcases hresult : run state.session with ⟨failure | found, session⟩
  · rw [hresult] at hanswer
    rcases hanswer with hok | ⟨hlimit, _⟩
    · cases hok
    · exact absurd hstate.patience hlimit
  · rw [hresult] at hanswer hkeep
    rcases hanswer with hok | ⟨hlimit, _⟩
    · obtain rfl : found = a := Except.ok.inj hok
      exact ⟨{ state with session }, ⟨hstate.files, hkeep⟩, rfl⟩
    · exact absurd hstate.patience hlimit

theorem yields_say {level : Level} {text : String} :
    Yields files (ofRun (Run.say level text)) () :=
  yields_ofRun (Run.computes_say level text)

theorem yields_info {text : String} : Yields files (info text) () := yields_say

/-- Reading yields what is there to be read. -/
theorem yields_read {action : Files → Except FileFault α} {a : α} (h : action files = .ok a) :
    Yields files (read action) a := by
  intro state hstate
  refine ⟨state, hstate, ?_⟩
  unfold read
  rw [hstate.files, h]

/-- A context matters to failures only. -/
theorem Yields.doing {command : Shell α} {a : α} (h : Yields files command a) (context : String) :
    Yields files (Shell.doing context command) a := by
  intro state hstate
  obtain ⟨after, hafter, hcommand⟩ := h state hstate
  refine ⟨after, hafter, ?_⟩
  unfold Shell.doing
  rw [hcommand]

/-- What yields for every item yields for all of them. -/
theorem yields_each {items : List α} {action : α → Shell Unit}
    (h : ∀ item, Yields files (action item) ()) : Yields files (each items action) () := by
  induction items with
  | nil => exact yields_pure ()
  | cons item others ih => exact (h item).bind ih

end Shell

end WorkflowGraph
