import WorkflowGraph.Go.Visit
import WorkflowGraph.Registry.Basic
import WorkflowGraph.Sdk.Action
import WorkflowGraph.Source.File
import WorkflowGraph.Text.Uppercase

/-!
# Roles of functions

A function is a workflow or an activity because a worker has registered it, or it is a workflow
because it takes a workflow context and uses the SDK.  The rules are asked one after the other
and the first that answers decides.
-/

namespace WorkflowGraph

/-- The type of the receiver of a method. -/
def Go.Node.receiverType? (method : Go.Node) : Option String := do
  let receiver ← method.field? .receiver
  let declaration ← receiver.phrases.find? fun child => child.kind = .parameterDeclaration
  let type ← declaration.field? .type
  let name := Go.TypeName.undecorated type.text
  if name = "" then none else some name

/-- A name with the type that it is a method of. -/
def qualifiedName (receiver : Option String) (name : String) : String :=
  match receiver with
  | some type => type ++ "." ++ name
  | none => name

/-- A function as the rules see it. -/
structure Candidate where
  /-- The bare name. -/
  name : String
  receiver : Option String
  function : Go.Node
  imports : SdkImports

namespace Candidate

/-- The candidate of a function declaration; one without a name is none. -/
def ofFunction? (file : SourceFile) (function : Go.Node) : Option Candidate :=
  (function.field? .name).map fun name =>
    { name := name.text
      receiver := if function.kind = .methodDeclaration then function.receiverType? else none
      function, imports := file.imports }

def qualifiedName (candidate : Candidate) : String :=
  WorkflowGraph.qualifiedName candidate.receiver candidate.name

def isExported (candidate : Candidate) : Bool := Text.isExported candidate.name

/-- The role that an exported method inherits from its type. -/
def inheritedRole? (candidate : Candidate) (registry : Registry) : Option RegisteredRole :=
  if candidate.isExported then candidate.receiver.bind registry.typeRole? else none

/-- Registered as a workflow, by itself or through its type. -/
def isRegisteredWorkflow (candidate : Candidate) (registry : Registry) : Bool :=
  registry.isWorkflow candidate.name || registry.isWorkflow candidate.qualifiedName ||
    candidate.inheritedRole? registry == some .workflow

/-- The name of the receiver type is registered as an activity. -/
def receiverIsActivity (candidate : Candidate) (registry : Registry) : Bool :=
  candidate.isExported &&
    match candidate.receiver with
    | some type => registry.isActivity type
    | none => false

/-- Registered as an activity, by itself or through its type. -/
def isRegisteredActivity (candidate : Candidate) (registry : Registry) : Bool :=
  registry.isActivity candidate.name || registry.isActivity candidate.qualifiedName ||
    candidate.receiverIsActivity registry ||
    candidate.inheritedRole? registry == some .activity

/-- Whether a type is the context of a workflow under the imports of a file. -/
def isContextType (imports : SdkImports) (type : String) : Bool :=
  match Text.cutFirst '.' type.toList with
  | some (package, name) =>
    String.ofList package == imports.workflow && String.ofList name == "Context"
  | none => imports.workflowUnqualified && type == "Context"

/-- Whether the first parameter is the context of a workflow. -/
def takesContext (candidate : Candidate) : Bool :=
  let type? := do
    let parameters ← candidate.function.field? .parameters
    let first ← parameters.phrases.head?
    first.field? .type
  match type? with
  | some type => isContextType candidate.imports type.text
  | none => false

/-- Whether a call of the SDK stands in the body.  The whole body is visited in any case. -/
def usesSdk (candidate : Candidate) : Run Bool :=
  match candidate.function.field? .body with
  | none => pure false
  | some body =>
    body.visitCalls (some candidate.function) false fun found placed =>
      pure (found || (candidate.imports.action? placed.call).isSome)

end Candidate

/-- The rules. -/
inductive Rule where
  | registeredWorkflow
  | registeredActivity
  | workflowSignature
deriving DecidableEq, Repr

namespace Rule

/-- The name of a rule. -/
def label : Rule → String
  | registeredWorkflow => "registered-workflow"
  | registeredActivity => "registered-activity"
  | workflowSignature => "workflow-signature"

/-- All rules in the order in which they are asked. -/
def standard : List Rule := [registeredWorkflow, registeredActivity, workflowSignature]

/-- The answer of a rule: a role, or none to leave it to the next rule. -/
def ask (registry : Registry) (candidate : Candidate) : Rule → Run (Option NodeRole)
  | registeredWorkflow =>
    pure (if candidate.isRegisteredWorkflow registry then some .workflow else none)
  | registeredActivity =>
    pure (if candidate.isRegisteredActivity registry then some .activity else none)
  | workflowSignature =>
    if candidate.takesContext then do
      pure (if ← candidate.usesSdk then some .workflow else none)
    else pure none

end Rule

/-- The role of a candidate: the answer of the first rule that has one. -/
def classify (rules : List Rule) (registry : Registry) (candidate : Candidate) :
    Run (Option NodeRole) :=
  match rules with
  | [] => pure none
  | rule :: others => do
    match ← rule.ask registry candidate with
    | some role => pure (some role)
    | none => classify others registry candidate

end WorkflowGraph
