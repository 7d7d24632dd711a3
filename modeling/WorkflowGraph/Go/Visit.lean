import WorkflowGraph.Go.Cursor
import WorkflowGraph.Go.Query
import WorkflowGraph.Run

/-!
# Visiting the calls of a tree

A visit goes through a tree on a tour and hands every call to a step, together with the
innermost function around it.  Before every node, call or not, it asks whether it was told to
stop.  What the steps have gathered is kept when the visit ends early: a `Progress` holds it
beside the failure that ended the visit.
-/

namespace WorkflowGraph.Go

/-- A call and the innermost function, method or function literal around it. -/
structure PlacedCall where
  call : Node
  scope : Option Node

/-- How far a visit has come. -/
structure Progress (σ : Type) where
  gathered : σ
  session : Session
  /-- What ended the visit. -/
  failure : Option Failure := none

namespace Progress

variable {σ : Type}

/-- Runs one step; a step that fails ends the visit and leaves what was gathered. -/
def advance (progress : Progress σ) (step : σ → Run σ) : Progress σ :=
  match progress.failure with
  | some _ => progress
  | none =>
    match step progress.gathered progress.session with
    | (.ok gathered, session) => { progress with gathered, session }
    | (.error failure, session) => { progress with session, failure := some failure }

/-- The visit as a run: what was gathered, or the failure that ended it. -/
def outcome (progress : Progress σ) : Except Failure σ × Session :=
  match progress.failure with
  | none => (.ok progress.gathered, progress.session)
  | some failure => (.error failure, progress.session)

end Progress

namespace Node

variable {σ : Type}

/-- What a visit does at one node: it asks whether to stop, and a call is handed to the step. -/
def visitHere (step : σ → PlacedCall → Run σ) (scope : Option Node) (node : Node) (gathered : σ) :
    Run σ := do
  Run.poll
  if node.kind = .callExpression then step gathered ⟨node, scope⟩ else pure gathered

/-- The innermost function around the children of a node. -/
def innerScope (node : Node) (scope : Option Node) : Option Node :=
  if node.hasOwnScope then some node else scope

/-- The innermost function around the place of a cursor; `outer` is the function around the tree. -/
def scopeBelow (outer : Option Node) : List Ancestor → Option Node
  | [] => outer
  | parent :: above => innerScope parent.node (scopeBelow outer above)

/-- Visits the nodes of a tour from a stage on. -/
def visitFrom (step : σ → PlacedCall → Run σ) (outer : Option Node) (progress : Progress σ)
    (tour : Tour) : Progress σ :=
  let here := progress.advance
    (visitHere step (scopeBelow outer tour.cursor.above) tour.cursor.node)
  if here.failure.isSome then here
  else
    match _h : tour.next? with
    | none => here
    | some later => visitFrom step outer here later
termination_by tour.ahead.length
decreasing_by exact Tour.length_ahead_lt _h

/-- Visits a tree. -/
def visit (step : σ → PlacedCall → Run σ) (scope : Option Node) (progress : Progress σ)
    (root : Node) : Progress σ :=
  visitFrom step scope progress (Tour.start root)

/-- Visits the calls of a tree from what is gathered at the start; `scope` is the function
around the tree. -/
def visitCalls (root : Node) (scope : Option Node) (start : σ) (step : σ → PlacedCall → Run σ) :
    Run σ := fun session =>
  (root.visit step scope ⟨start, session, none⟩).outcome

/-- Notes a call; after the given number of calls the visit is told to stop. -/
def noteCall (limit : Option Nat) (calls : List PlacedCall) (placed : PlacedCall) :
    Run (List PlacedCall) := do
  let calls := calls ++ [placed]
  if limit = some calls.length then Run.stop
  pure calls

/-- The calls of a tree in the order of the visit, told to stop after the given number of calls:
the calls that were visited, and the failure that ended the visit. -/
def callsUntil (root : Node) (limit : Option Nat) : List PlacedCall × Option Failure :=
  let patience := if limit = some 0 then some 0 else none
  let progress := root.visit (noteCall limit) none ⟨[], ⟨patience, []⟩, none⟩
  (progress.gathered, progress.failure)

end Node

end WorkflowGraph.Go
