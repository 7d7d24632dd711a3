import WorkflowGraph.Graph.Basic
import WorkflowGraph.Json.Reader
import WorkflowGraph.Json.Record
import WorkflowGraph.Json.Writer

/-!
# Graphs as documents

A graph is written as a JSON object with its nodes by their keys and its counts.  Reading takes
every field that must be there, ignores entries that it does not know, and of a key of a node
that stands there twice takes the last one.
-/

namespace WorkflowGraph

open Json (ofText ofNat ofFields ofList ofOption)

namespace NodeRole

/-- The roles by their names. -/
def choices : List (String × NodeRole) :=
  [("workflow", .workflow), ("activity", .activity), ("signal_handler", .signalHandler),
   ("query_handler", .queryHandler), ("update_handler", .updateHandler)]

def toJson (role : NodeRole) : Json := ofText role.label

def ofJson? : Json → Option NodeRole := Json.choice? choices

end NodeRole

namespace CallRole

/-- The name of a call role. -/
def label : CallRole → String
  | .activity => "activity"
  | .localActivity => "local_activity"
  | .childWorkflow => "child_workflow"

/-- The call roles by their names. -/
def choices : List (String × CallRole) :=
  [("activity", .activity), ("local_activity", .localActivity),
   ("child_workflow", .childWorkflow)]

def toJson (role : CallRole) : Json := ofText role.label

def ofJson? : Json → Option CallRole := Json.choice? choices

end CallRole

namespace Resolution

/-- The name of a resolution. -/
def label : Resolution → String
  | .pending => "pending"
  | .exact => "exact"
  | .suffix => "suffix"
  | .stub => "stub"
  | .unresolved => "unresolved"

/-- The resolutions by their names. -/
def choices : List (String × Resolution) :=
  [("pending", .pending), ("exact", .exact), ("suffix", .suffix), ("stub", .stub),
   ("unresolved", .unresolved)]

def toJson (resolution : Resolution) : Json := ofText resolution.label

def ofJson? : Json → Option Resolution := Json.choice? choices

end Resolution

namespace RetryPolicy

def toJson (policy : RetryPolicy) : Json :=
  ofFields
    [("initial_interval", ofOption ofText policy.initialInterval),
     ("backoff_coefficient", ofOption .decimal policy.backoffCoefficient),
     ("maximum_interval", ofOption ofText policy.maximumInterval),
     ("maximum_attempts", ofOption .integer policy.maximumAttempts)]

def fieldNames : List String :=
  ["initial_interval", "backoff_coefficient", "maximum_interval", "maximum_attempts"]

def ofJson? (json : Json) : Option RetryPolicy := do
  let fields ← json.record? fieldNames
  some
    { initialInterval := ← fields.optional "initial_interval" Json.text?
      backoffCoefficient := ← fields.optional "backoff_coefficient" Json.decimal?
      maximumInterval := ← fields.optional "maximum_interval" Json.text?
      maximumAttempts := ← fields.optional "maximum_attempts" Json.int? }

end RetryPolicy

namespace CallOptions

def toJson (options : CallOptions) : Json :=
  ofFields
    [("opaque", .bool options.opaqueOptions),
     ("start_to_close_timeout", ofOption ofText options.startToCloseTimeout),
     ("schedule_to_close_timeout", ofOption ofText options.scheduleToCloseTimeout),
     ("schedule_to_start_timeout", ofOption ofText options.scheduleToStartTimeout),
     ("heartbeat_timeout", ofOption ofText options.heartbeatTimeout),
     ("task_queue", ofOption ofText options.taskQueue),
     ("workflow_id", ofOption ofText options.workflowId),
     ("workflow_execution_timeout", ofOption ofText options.workflowExecutionTimeout),
     ("workflow_run_timeout", ofOption ofText options.workflowRunTimeout),
     ("retry_policy", ofOption RetryPolicy.toJson options.retryPolicy)]

def fieldNames : List String :=
  ["opaque", "start_to_close_timeout", "schedule_to_close_timeout", "schedule_to_start_timeout",
   "heartbeat_timeout", "task_queue", "workflow_id", "workflow_execution_timeout",
   "workflow_run_timeout", "retry_policy"]

def ofJson? (json : Json) : Option CallOptions := do
  let fields ← json.record? fieldNames
  some
    { opaqueOptions := ← fields.required "opaque" Json.bool?
      startToCloseTimeout := ← fields.optional "start_to_close_timeout" Json.text?
      scheduleToCloseTimeout := ← fields.optional "schedule_to_close_timeout" Json.text?
      scheduleToStartTimeout := ← fields.optional "schedule_to_start_timeout" Json.text?
      heartbeatTimeout := ← fields.optional "heartbeat_timeout" Json.text?
      taskQueue := ← fields.optional "task_queue" Json.text?
      workflowId := ← fields.optional "workflow_id" Json.text?
      workflowExecutionTimeout := ← fields.optional "workflow_execution_timeout" Json.text?
      workflowRunTimeout := ← fields.optional "workflow_run_timeout" Json.text?
      retryPolicy := ← fields.optional "retry_policy" RetryPolicy.ofJson? }

end CallOptions

namespace CallSite

def toJson (site : CallSite) : Json :=
  ofFields
    [("target_name", ofText site.targetName),
     ("target_role", site.targetRole.toJson),
     ("line", ofNat site.line),
     ("options", ofOption CallOptions.toJson site.options),
     ("argument_count", ofNat site.argumentCount),
     ("argument_types", ofList ofText site.argumentTypes),
     ("result_type", ofOption ofText site.resultType),
     ("resolution", site.resolution.toJson)]

def fieldNames : List String :=
  ["target_name", "target_role", "line", "options", "argument_count", "argument_types",
   "result_type", "resolution"]

def ofJson? (json : Json) : Option CallSite := do
  let fields ← json.record? fieldNames
  some
    { targetName := ← fields.required "target_name" Json.text?
      targetRole := ← fields.required "target_role" CallRole.ofJson?
      line := ← fields.required "line" Json.nat?
      options := ← fields.optional "options" CallOptions.ofJson?
      argumentCount := ← fields.required "argument_count" Json.nat?
      argumentTypes := ← fields.required "argument_types" (Json.list? Json.text?)
      resultType := ← fields.optional "result_type" Json.text?
      resolution := ← fields.required "resolution" Resolution.ofJson? }

end CallSite

namespace Signal

def toJson (signal : Signal) : Json :=
  ofFields
    [("name", ofText signal.name), ("handler", ofOption ofText signal.handler),
     ("line", ofNat signal.line), ("channel", .bool signal.channel)]

def ofJson? (json : Json) : Option Signal := do
  let fields ← json.record? ["name", "handler", "line", "channel"]
  some
    { name := ← fields.required "name" Json.text?
      handler := ← fields.optional "handler" Json.text?
      line := ← fields.required "line" Json.nat?
      channel := ← fields.required "channel" Json.bool? }

end Signal

namespace Query

def toJson (query : Query) : Json :=
  ofFields
    [("name", ofText query.name), ("handler", ofOption ofText query.handler),
     ("line", ofNat query.line)]

def ofJson? (json : Json) : Option Query := do
  let fields ← json.record? ["name", "handler", "line"]
  some
    { name := ← fields.required "name" Json.text?
      handler := ← fields.optional "handler" Json.text?
      line := ← fields.required "line" Json.nat? }

end Query

namespace Update

def toJson (update : Update) : Json :=
  ofFields
    [("name", ofText update.name), ("handler", ofOption ofText update.handler),
     ("line", ofNat update.line), ("has_validator", .bool update.hasValidator)]

def ofJson? (json : Json) : Option Update := do
  let fields ← json.record? ["name", "handler", "line", "has_validator"]
  some
    { name := ← fields.required "name" Json.text?
      handler := ← fields.optional "handler" Json.text?
      line := ← fields.required "line" Json.nat?
      hasValidator := ← fields.required "has_validator" Json.bool? }

end Update

namespace Timer

def toJson (timer : Timer) : Json :=
  ofFields
    [("duration", ofText timer.duration), ("is_sleep", .bool timer.isSleep),
     ("line", ofNat timer.line)]

def ofJson? (json : Json) : Option Timer := do
  let fields ← json.record? ["duration", "is_sleep", "line"]
  some
    { duration := ← fields.required "duration" Json.text?
      isSleep := ← fields.required "is_sleep" Json.bool?
      line := ← fields.required "line" Json.nat? }

end Timer

namespace Version

def toJson (version : Version) : Json :=
  ofFields
    [("change_id", ofText version.changeId),
     ("min_version", ofOption .integer version.minVersion),
     ("max_version", ofOption .integer version.maxVersion), ("line", ofNat version.line)]

def ofJson? (json : Json) : Option Version := do
  let fields ← json.record? ["change_id", "min_version", "max_version", "line"]
  some
    { changeId := ← fields.required "change_id" Json.text?
      minVersion := ← fields.optional "min_version" Json.int?
      maxVersion := ← fields.optional "max_version" Json.int?
      line := ← fields.required "line" Json.nat? }

end Version

namespace SearchAttribute

def toJson (attributes : SearchAttribute) : Json :=
  ofFields [("name", ofText attributes.name), ("line", ofNat attributes.line)]

def ofJson? (json : Json) : Option SearchAttribute := do
  let fields ← json.record? ["name", "line"]
  some
    { name := ← fields.required "name" Json.text?
      line := ← fields.required "line" Json.nat? }

end SearchAttribute

namespace ContinueAsNew

def toJson (marker : ContinueAsNew) : Json :=
  ofFields [("target", ofOption ofText marker.target), ("line", ofNat marker.line)]

def ofJson? (json : Json) : Option ContinueAsNew := do
  let fields ← json.record? ["target", "line"]
  some
    { target := ← fields.optional "target" Json.text?
      line := ← fields.required "line" Json.nat? }

end ContinueAsNew

namespace InternalCall

def toJson (call : InternalCall) : Json :=
  ofFields [("target", ofText call.target), ("line", ofNat call.line)]

def ofJson? (json : Json) : Option InternalCall := do
  let fields ← json.record? ["target", "line"]
  some
    { target := ← fields.required "target" Json.text?
      line := ← fields.required "line" Json.nat? }

end InternalCall

namespace Parameter

def toJson (parameter : Parameter) : Json :=
  ofFields [("name", ofText parameter.name), ("type_name", ofText parameter.typeName)]

def ofJson? (json : Json) : Option Parameter := do
  let fields ← json.record? ["name", "type_name"]
  some
    { name := ← fields.required "name" Json.text?
      typeName := ← fields.required "type_name" Json.text? }

end Parameter

namespace GraphNode

def toJson (node : GraphNode) : Json :=
  ofFields
    [("name", ofText node.name),
     ("role", node.role.toJson),
     ("package", ofText node.package),
     ("file_path", ofText node.filePath),
     ("line_number", ofNat node.lineNumber),
     ("description", ofOption ofText node.description),
     ("parameters", ofList Parameter.toJson node.parameters),
     ("return_types", ofList ofText node.returnTypes),
     ("call_sites", ofList CallSite.toJson node.body.callSites),
     ("internal_calls", ofList InternalCall.toJson node.body.internalCalls),
     ("parents", ofList ofText node.parents),
     ("signals", ofList Signal.toJson node.body.signals),
     ("queries", ofList Query.toJson node.body.queries),
     ("updates", ofList Update.toJson node.body.updates),
     ("timers", ofList Timer.toJson node.body.timers),
     ("search_attributes", ofList SearchAttribute.toJson node.body.searchAttributes),
     ("versions", ofList Version.toJson node.body.versions),
     ("continue_as_new", ofList ContinueAsNew.toJson node.body.continueAsNew),
     ("is_stub", .bool node.isStub)]

def fieldNames : List String :=
  ["name", "role", "package", "file_path", "line_number", "description", "parameters",
   "return_types", "call_sites", "internal_calls", "parents", "signals", "queries", "updates",
   "timers", "search_attributes", "versions", "continue_as_new", "is_stub"]

/-- The body of a node, whose lists stand among the fields of the node. -/
def bodyOfFields? (fields : Json.Fields) : Option Body := do
  some
    { callSites := ← fields.required "call_sites" (Json.list? CallSite.ofJson?)
      internalCalls := ← fields.required "internal_calls" (Json.list? InternalCall.ofJson?)
      signals := ← fields.required "signals" (Json.list? Signal.ofJson?)
      queries := ← fields.required "queries" (Json.list? Query.ofJson?)
      updates := ← fields.required "updates" (Json.list? Update.ofJson?)
      timers := ← fields.required "timers" (Json.list? Timer.ofJson?)
      searchAttributes := ←
        fields.required "search_attributes" (Json.list? SearchAttribute.ofJson?)
      versions := ← fields.required "versions" (Json.list? Version.ofJson?)
      continueAsNew := ← fields.required "continue_as_new" (Json.list? ContinueAsNew.ofJson?) }

def ofJson? (json : Json) : Option GraphNode := do
  let fields ← json.record? fieldNames
  some
    { name := ← fields.required "name" Json.text?
      role := ← fields.required "role" NodeRole.ofJson?
      package := ← fields.required "package" Json.text?
      filePath := ← fields.required "file_path" Json.text?
      lineNumber := ← fields.required "line_number" Json.nat?
      description := ← fields.optional "description" Json.text?
      parameters := ← fields.required "parameters" (Json.list? Parameter.ofJson?)
      returnTypes := ← fields.required "return_types" (Json.list? Json.text?)
      body := ← bodyOfFields? fields
      parents := ← fields.required "parents" (Json.list? Json.text?)
      isStub := ← fields.required "is_stub" Json.bool? }

end GraphNode

namespace Stats

def toJson (stats : Stats) : Json :=
  ofFields
    [("total_workflows", ofNat stats.totalWorkflows),
     ("total_activities", ofNat stats.totalActivities),
     ("total_signals", ofNat stats.totalSignals),
     ("total_queries", ofNat stats.totalQueries),
     ("total_updates", ofNat stats.totalUpdates),
     ("total_timers", ofNat stats.totalTimers),
     ("total_versions", ofNat stats.totalVersions),
     ("total_search_attributes", ofNat stats.totalSearchAttributes),
     ("total_stubs", ofNat stats.totalStubs),
     ("total_call_sites", ofNat stats.totalCallSites),
     ("max_fan_out", ofNat stats.maxFanOut),
     ("avg_fan_out", .decimal stats.avgFanOut),
     ("orphan_nodes", ofNat stats.orphanNodes),
     ("max_depth", ofNat stats.maxDepth)]

def fieldNames : List String :=
  ["total_workflows", "total_activities", "total_signals", "total_queries", "total_updates",
   "total_timers", "total_versions", "total_search_attributes", "total_stubs",
   "total_call_sites", "max_fan_out", "avg_fan_out", "orphan_nodes", "max_depth"]

def ofJson? (json : Json) : Option Stats := do
  let fields ← json.record? fieldNames
  some
    { totalWorkflows := ← fields.required "total_workflows" Json.nat?
      totalActivities := ← fields.required "total_activities" Json.nat?
      totalSignals := ← fields.required "total_signals" Json.nat?
      totalQueries := ← fields.required "total_queries" Json.nat?
      totalUpdates := ← fields.required "total_updates" Json.nat?
      totalTimers := ← fields.required "total_timers" Json.nat?
      totalVersions := ← fields.required "total_versions" Json.nat?
      totalSearchAttributes := ← fields.required "total_search_attributes" Json.nat?
      totalStubs := ← fields.required "total_stubs" Json.nat?
      totalCallSites := ← fields.required "total_call_sites" Json.nat?
      maxFanOut := ← fields.required "max_fan_out" Json.nat?
      avgFanOut := ← fields.required "avg_fan_out" Json.decimal?
      orphanNodes := ← fields.required "orphan_nodes" Json.nat?
      maxDepth := ← fields.required "max_depth" Json.nat? }

end Stats

namespace Graph

/-- The nodes of a graph as an object with their keys, in the order of the table. -/
def nodesToJson (nodes : Table GraphNode) : Json :=
  ofFields (nodes.entries.map fun (key, node) => (key, node.toJson))

def toJson (graph : Graph) : Json :=
  ofFields [("nodes", nodesToJson graph.nodes), ("stats", graph.stats.toJson)]

/-- Nodes by their keys; of a key that stands there twice the last node counts. -/
def nodesOfJson? (json : Json) : Option (Table GraphNode) := do
  let entries ← json.entries?
  let nodes ← entries.mapM fun (key, value) => (GraphNode.ofJson? value).map fun node => (key, node)
  some (Table.ofList nodes)

def ofJson? (json : Json) : Option Graph := do
  let fields ← json.record? ["nodes", "stats"]
  some
    { nodes := ← fields.required "nodes" nodesOfJson?
      stats := ← fields.required "stats" Stats.ofJson? }

/-- The document of a graph. -/
def render (style : Json.Style) (graph : Graph) : String := graph.toJson.render style

/-- Reads the document of a graph. -/
def parse? (text : String) : Option Graph := (Json.parse? text).bind ofJson?

end Graph

end WorkflowGraph
