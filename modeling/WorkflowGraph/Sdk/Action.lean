import WorkflowGraph.Go.Query
import WorkflowGraph.Graph.Basic
import WorkflowGraph.Source.Imports

/-!
# The calls of the SDK

The functions of the workflow package that say something about a workflow, and the names of
calls that say nothing: functions of other well-known packages, methods that every type has, and
the functions that the language itself provides.
-/

namespace WorkflowGraph

/-- What a call of the workflow package does. -/
inductive SdkAction where
  | execute (role : CallRole)
  | setSignalHandler
  | getSignalChannel
  | setQueryHandler
  | setUpdateHandler (withOptions : Bool)
  | sleep
  | newTimer
  | getVersion
  | upsertSearchAttributes
  | upsertTypedSearchAttributes
  | continueAsNew
  /-- Coroutines and waiting: they mark a workflow and record nothing. -/
  | coroutine
deriving DecidableEq, Repr

namespace Sdk

/-- The functions of the workflow package with what they do. -/
def actions : List (String × SdkAction) :=
  [("ExecuteActivity", .execute .activity),
   ("ExecuteLocalActivity", .execute .localActivity),
   ("ExecuteChildWorkflow", .execute .childWorkflow),
   ("SetSignalHandler", .setSignalHandler),
   ("GetSignalChannel", .getSignalChannel),
   ("SetQueryHandler", .setQueryHandler),
   ("SetUpdateHandler", .setUpdateHandler false),
   ("SetUpdateHandlerWithOptions", .setUpdateHandler true),
   ("Sleep", .sleep),
   ("NewTimer", .newTimer),
   ("GetVersion", .getVersion),
   ("UpsertSearchAttributes", .upsertSearchAttributes),
   ("UpsertTypedSearchAttributes", .upsertTypedSearchAttributes),
   ("NewContinueAsNewError", .continueAsNew),
   ("Go", .coroutine),
   ("GoNamed", .coroutine),
   ("Await", .coroutine),
   ("AwaitWithTimeout", .coroutine),
   ("NewSelector", .coroutine),
   ("NewNamedSelector", .coroutine)]

/-- What the function with this name does. -/
def action? (name : String) : Option SdkAction := actions.lookup name

/-- The functions whose second argument gives options to the next call. -/
def optionWrappers : List String :=
  ["WithActivityOptions", "WithLocalActivityOptions", "WithChildOptions"]

def isOptionWrapper (name : String) : Bool := optionWrappers.contains name

/-- The other functions of the workflow package. -/
def otherExports : List String :=
  ["GetInfo", "GetLogger", "GetMetricsHandler", "GetLastCompletionResult", "GetLastError",
   "GetTypedSearchAttributes", "GetMemo", "HasLastCompletionResult", "IsReplaying", "Now",
   "SideEffect", "MutableSideEffect", "NewChannel", "NewNamedChannel", "NewBufferedChannel",
   "NewNamedBufferedChannel", "NewFuture", "NewDisconnectedContext", "WithCancel",
   "WithValue", "WithWorkflowID", "WithTaskQueue", "WithRetryPolicy", "WithStartToCloseTimeout",
   "WithScheduleToCloseTimeout", "WithHeartbeatTimeout", "WithWaitForCancellation",
   "WithActivityOptions", "WithLocalActivityOptions", "WithChildOptions", "GetActivityOptions",
   "GetChildWorkflowOptions", "UpsertMemo", "RequestCancelExternalWorkflow",
   "SignalExternalWorkflow", "GetCurrentUpdateInfo", "AllHandlersFinished",
   "DataConverterWithoutDeadlockDetection"]

/-- Whether the workflow package has a function with this name. -/
def isExport (name : String) : Bool :=
  (action? name).isSome || isOptionWrapper name || otherExports.contains name

/-- Names on which a method call is of no interest. -/
def excludedReceivers : List String :=
  ["fmt", "log", "logger", "slog", "zap", "errors", "strings", "strconv", "bytes", "bufio",
   "io", "ioutil", "os", "filepath", "path", "time", "context", "json", "sort", "math",
   "sync", "atomic", "regexp", "reflect", "utf8", "unicode"]

def isExcludedReceiver (receiver : String) : Bool := excludedReceivers.contains receiver

/-- Names of methods that are of no interest. -/
def commonMethods : List String :=
  ["Error", "Errorf", "Info", "Infof", "Debug", "Debugf", "Warn", "Warnf", "Print", "Printf",
   "Println", "Sprintf", "Sprint", "Fatal", "Fatalf", "Wrap", "Wrapf", "New", "Is", "As",
   "Get", "GetLogger", "String", "Len", "Close", "Lock", "Unlock", "Done", "Err", "Select",
   "Receive", "ReceiveAsync", "Send", "AddFuture", "AddReceive", "IsReady"]

def isCommonMethod (name : String) : Bool := commonMethods.contains name

/-- The functions that the language provides. -/
def builtins : List String :=
  ["append", "cap", "clear", "close", "complex", "copy", "delete", "imag", "len", "make",
   "max", "min", "new", "panic", "print", "println", "real", "recover"]

def isBuiltin (name : String) : Bool := builtins.contains name

end Sdk

/-- What a call does, if it is a call of the workflow package. -/
def SdkImports.action? (imports : SdkImports) (call : Go.Node) : Option SdkAction :=
  match call.callee? with
  | none => none
  | some callee =>
    if imports.isWorkflowQualifier callee.qualifier? then Sdk.action? callee.name.text else none

/-- What a call starts, if it is a call of the workflow package that starts something. -/
def SdkImports.executeRole? (imports : SdkImports) (call : Go.Node) : Option CallRole :=
  match imports.action? call with
  | some (.execute role) => some role
  | _ => none

end WorkflowGraph
