import WorkflowGraph.Go.Query
import WorkflowGraph.Graph.Basic

/-!
# Options of calls

Options are read from a composite literal, key by key; of a key that stands there twice the
last value counts.  Numbers are read only where they are written as plain decimals.
-/

namespace WorkflowGraph

/-- The text of a number literal. -/
def numberLiteral? (value : Go.Node) : Option (List Char) :=
  if value.kind = .intLiteral || value.kind = .floatLiteral then some value.text.toList else none

/-- Sets the field of a retry policy that a key names. -/
def RetryPolicy.set (policy : RetryPolicy) (key : String) (value : Go.Node) : RetryPolicy :=
  if key = "InitialInterval" then { policy with initialInterval := some value.text }
  else if key = "MaximumInterval" then { policy with maximumInterval := some value.text }
  else if key = "BackoffCoefficient" then
    { policy with backoffCoefficient := (numberLiteral? value).bind Number.Binary64.ofText? }
  else if key = "MaximumAttempts" then
    { policy with maximumAttempts := (numberLiteral? value).bind Number.int64? }
  else policy

/-- The retry policy of a literal; anything else is an empty policy. -/
def RetryPolicy.ofNode (value : Go.Node) : RetryPolicy :=
  match value.composite? with
  | none => {}
  | some composite =>
    composite.keyedElements.foldl (fun policy (key, value) => policy.set key.text value) {}

/-- Sets the option that a key names. -/
def CallOptions.set (options : CallOptions) (key : String) (value : Go.Node) : CallOptions :=
  if key = "StartToCloseTimeout" then { options with startToCloseTimeout := some value.text }
  else if key = "ScheduleToCloseTimeout" then
    { options with scheduleToCloseTimeout := some value.text }
  else if key = "ScheduleToStartTimeout" then
    { options with scheduleToStartTimeout := some value.text }
  else if key = "HeartbeatTimeout" then { options with heartbeatTimeout := some value.text }
  else if key = "WorkflowExecutionTimeout" then
    { options with workflowExecutionTimeout := some value.text }
  else if key = "WorkflowRunTimeout" then { options with workflowRunTimeout := some value.text }
  else if key = "TaskQueue" then { options with taskQueue := some value.stringOrText }
  else if key = "WorkflowID" then { options with workflowId := some value.stringOrText }
  else if key = "RetryPolicy" then { options with retryPolicy := some (.ofNode value) }
  else options

/-- The options of a literal; anything else cannot be read. -/
def CallOptions.ofNode (options : Option Go.Node) : CallOptions :=
  match options.bind Go.Node.composite? with
  | none => { opaqueOptions := true }
  | some composite =>
    composite.keyedElements.foldl (fun options (key, value) => options.set key.text value) {}

/-- Whether the options of an update handler name a validator. -/
def hasValidator (options : Option Go.Node) : Bool :=
  match options.bind Go.Node.composite? with
  | none => false
  | some composite => composite.keyedElements.any fun (key, _) => key.text == "Validator"

end WorkflowGraph
