import WorkflowGraph.Body.Arguments
import WorkflowGraph.Body.Options
import WorkflowGraph.Sdk.Action
import WorkflowGraph.Text.Split

/-!
# What the body of a function does

The calls of a body are visited in pre-order.  A call of the SDK becomes a record of its kind;
any other call is an internal call, recorded once for each target, unless it is of no interest.
A call `Get` directly on a call that starts something belongs to the latter: the two are one
call site, with the type that the result is read into.
-/

namespace WorkflowGraph

/-- The search attribute that stands for names which only a run can tell. -/
def dynamicAttribute : String := "<dynamic>"

namespace Body

/-- The options around the context of a call, if the context is wrapped in options. -/
def contextOptions? (imports : SdkImports) (context : Go.Node) : Option CallOptions :=
  if context.kind = .callExpression then
    match context.callee? with
    | none => none
    | some wrapper =>
      if imports.isWorkflowQualifier wrapper.qualifier? && Sdk.isOptionWrapper wrapper.name.text
      then some (.ofNode context.arguments[1]?)
      else none
  else none

/-- The call site of a call that starts something; a call without a target is none. -/
def callSite? (imports : SdkImports) (role : CallRole) (call : Go.Node)
    (resultType : Option String) : Option CallSite :=
  match call.arguments with
  | context :: target :: payload =>
    some
      { targetName := target.targetName
        targetRole := role
        line := call.line
        options := contextOptions? imports context
        argumentCount := payload.length
        argumentTypes := payload.map Go.Node.typeTag
        resultType
        resolution := .pending }
  | _ => none

/-- A version as written: a decimal with a sign or none, or the default version of the SDK. -/
def versionValue? (imports : SdkImports) (argument : Go.Node) : Option Int :=
  match argument.kind with
  | .intLiteral => Number.int64? (argument.text.toList.filter (· != ' '))
  | .unaryExpression => Number.int64? (argument.text.toList.filter (· != ' '))
  | .selectorExpression =>
    match argument.field? .operand, argument.field? .field with
    | some operand, some name =>
      if operand.text == imports.workflow && name.text == "DefaultVersion" then some (-1) else none
    | _, _ => none
  | .identifier =>
    if imports.workflowUnqualified && argument.text == "DefaultVersion" then some (-1) else none
  | _ => none

/-- Whether an expression is a composite literal of a map type. -/
def isMapLiteral (argument : Go.Node) : Bool :=
  argument.kind = .compositeLiteral &&
    match argument.field? .type with
    | some type => type.kind = .mapType
    | none => false

/-- The names of the search attributes: the keys of a map literal. -/
def attributeNames (argument : Option Go.Node) : String :=
  match argument with
  | none => dynamicAttribute
  | some argument =>
    if isMapLiteral argument then
      match argument.keyedElements with
      | [] => dynamicAttribute
      | elements => Text.joinWith "," (elements.map fun (key, _) => key.stringOrText)
    else dynamicAttribute

/-- Adds a call site. -/
def addCallSite (body : Body) (site : CallSite) : Body :=
  { body with callSites := body.callSites ++ [site] }

/-- Adds a timer. -/
def addTimer (body : Body) (call : Go.Node) (isSleep : Bool) : Body :=
  let duration := (call.arguments[1]?.map Go.Node.text).getD ""
  { body with timers := body.timers ++ [⟨duration, isSleep, call.line⟩] }

/-- Adds what a call of the SDK does; a call that starts something is not handled here. -/
def addMetadata (body : Body) (imports : SdkImports) (action : SdkAction) (call : Go.Node) :
    Body :=
  let arguments := call.arguments
  let name := Go.Node.nameOf arguments[1]?
  let handler := arguments[2]?.bind Go.Node.handlerName?
  let line := call.line
  match action with
  | .execute _ => body
  | .setSignalHandler => { body with signals := body.signals ++ [⟨name, handler, line, false⟩] }
  | .getSignalChannel => { body with signals := body.signals ++ [⟨name, none, line, true⟩] }
  | .setQueryHandler => { body with queries := body.queries ++ [⟨name, handler, line⟩] }
  | .setUpdateHandler withOptions =>
    let validated := withOptions && hasValidator arguments[3]?
    { body with updates := body.updates ++ [⟨name, handler, line, validated⟩] }
  | .sleep => body.addTimer call true
  | .newTimer => body.addTimer call false
  | .getVersion =>
    let least := arguments[2]?.bind (versionValue? imports)
    let greatest := arguments[3]?.bind (versionValue? imports)
    { body with versions := body.versions ++ [⟨name, least, greatest, line⟩] }
  | .upsertSearchAttributes =>
    let names := attributeNames arguments[1]?
    { body with searchAttributes := body.searchAttributes ++ [⟨names, line⟩] }
  | .upsertTypedSearchAttributes =>
    { body with searchAttributes := body.searchAttributes ++ [⟨dynamicAttribute, line⟩] }
  | .continueAsNew =>
    let target := arguments[1]?.map Go.Node.targetName
    { body with continueAsNew := body.continueAsNew ++ [⟨target, line⟩] }
  | .coroutine => body

/-- The target of a call that the SDK has no part in; none if it is of no interest. -/
def internalTarget? (imports : SdkImports) (callee : Go.Callee) : Option String :=
  let name := callee.name.text
  match callee.operand with
  | none =>
    if Sdk.isBuiltin name || (imports.workflowUnqualified && Sdk.isExport name) then none
    else some name
  | some operand =>
    if Sdk.isCommonMethod name then none
    else
      match operand.kind with
      | .identifier =>
        if imports.isSdkReceiver operand.text || Sdk.isExcludedReceiver operand.text then none
        else some (operand.text ++ "." ++ name)
      | .selectorExpression => some (operand.text ++ "." ++ name)
      | _ => some name

/-- Adds an internal call, unless its target is there already. -/
def addInternalCall (body : Body) (target : String) (line : Nat) : Body :=
  if body.internalCalls.any fun call => call.target == target then body
  else { body with internalCalls := body.internalCalls ++ [⟨target, line⟩] }

end Body

/-- What has been extracted so far, and the numbers of the calls that belong to a `Get` visited
before. -/
structure Extraction where
  body : Body := {}
  folded : List Nat := []

namespace Extraction

/-- The call that starts something and on which this call is a `Get`. -/
def startedBy? (imports : SdkImports) (callee : Go.Callee) : Option (CallRole × Go.Node) :=
  if callee.name.text == "Get" then
    match callee.operand with
    | none => none
    | some inner =>
      if inner.kind = .callExpression then
        (imports.executeRole? inner).map fun role => (role, inner)
      else none
  else none

/-- Records a call that starts something. -/
def start (imports : SdkImports) (extraction : Extraction) (role : CallRole) (call : Go.Node)
    (resultType : Option String) : Run Extraction :=
  match Body.callSite? imports role call resultType with
  | some site => pure { extraction with body := extraction.body.addCallSite site }
  | none => do
    Run.debug ("Execute call without a target at line " ++ Number.natText call.line)
    pure extraction

/-- Looks at a call with the given callee. -/
def lookAt (imports : SdkImports) (extraction : Extraction) (placed : Go.PlacedCall)
    (callee : Go.Callee) : Run Extraction :=
  let call := placed.call
  match startedBy? imports callee with
  | some (role, inner) =>
    let resultType := call.arguments[1]?.bind (Go.Node.resultType? placed.scope)
    start imports { extraction with folded := inner.id :: extraction.folded } role inner resultType
  | none =>
    match imports.action? call with
    | some (.execute role) => start imports extraction role call none
    | some action =>
      pure { extraction with body := extraction.body.addMetadata imports action call }
    | none =>
      match Body.internalTarget? imports callee with
      | some target =>
        pure { extraction with body := extraction.body.addInternalCall target call.line }
      | none => pure extraction

/-- Looks at one call of the body. -/
def step (imports : SdkImports) (extraction : Extraction) (placed : Go.PlacedCall) :
    Run Extraction :=
  if extraction.folded.contains placed.call.id then pure extraction
  else
    match placed.call.callee? with
    | none => pure extraction
    | some callee => lookAt imports extraction placed callee

end Extraction

/-- What the body of a function does; a function without a body does nothing. -/
def Body.extract (imports : SdkImports) (function : Go.Node) : Run Body :=
  match function.field? .body with
  | none => pure {}
  | some block => do
    let extraction ← block.visitCalls (some function) {} (Extraction.step imports)
    pure extraction.body

end WorkflowGraph
