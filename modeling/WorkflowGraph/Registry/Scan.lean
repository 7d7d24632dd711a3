import WorkflowGraph.Go.Locals
import WorkflowGraph.Go.Visit
import WorkflowGraph.Registry.Basic
import WorkflowGraph.Source.File

/-!
# Finding registrations

A registration is a method call `RegisterWorkflow` or `RegisterActivity`, with options or
without.  What its first argument looks like decides what is registered: a function by name, or
the type of a value.
-/

namespace WorkflowGraph.Registry

/-- The role that a registering method gives. -/
def methodRole? (method : String) : Option RegisteredRole :=
  if method = "RegisterWorkflow" || method = "RegisterWorkflowWithOptions" then some .workflow
  else if method = "RegisterActivity" || method = "RegisterActivityWithOptions" then
    some .activity
  else none

/-- What the argument of a registration names. -/
inductive Subject where
  | function (name : String)
  | type (written : String)
  /-- A variable whose address is taken and whose type is unknown. -/
  | unknown (name : String)
  /-- Something that cannot be registered. -/
  | other
deriving DecidableEq, Repr

/-- The type of a variable in the function around a call, or else anywhere in the file. -/
def variableType? (root : Go.Node) (scope : Option Go.Node) (name : String) : Option String :=
  match (scope.getD root).localType? name with
  | some type => some type
  | none => root.localType? name

/-- What the type in a composite literal names. -/
def Subject.ofLiteral (literal : Go.Node) : Subject :=
  match literal.field? .type with
  | some written => .type written.text
  | none => .other

/-- What an address names: that of a literal, or of a variable. -/
def Subject.ofAddress (root : Go.Node) (scope : Option Go.Node) (argument : Go.Node) : Subject :=
  match argument.composite? with
  | some literal => .ofLiteral literal
  | none =>
    match argument.field? .operand with
    | none => .other
    | some operand =>
      if operand.kind = .identifier then
        match variableType? root scope operand.text with
        | some written => .type written
        | none => .unknown operand.text
      else .other

/-- What the first argument of a registration names. -/
def Subject.ofArgument (root : Go.Node) (scope : Option Go.Node) (argument : Go.Node) : Subject :=
  match argument.kind with
  | .identifier =>
    match variableType? root scope argument.text with
    | some written => .type written
    | none => .function argument.text
  | .selectorExpression => .function argument.text
  | .unaryExpression => if argument.isAddressOf then .ofAddress root scope argument else .other
  | .callExpression =>
    match argument.newType? with
    | some written => .type written
    | none => .other
  | .compositeLiteral => .ofLiteral argument
  | _ => .other

/-- The role and the first argument of a call that registers something. -/
def registering? (call : Go.Node) : Option (RegisteredRole × Go.Node) := do
  let callee ← call.callee?
  let operand ← callee.operand
  if operand.kind = .identifier || operand.kind = .selectorExpression then
    let role ← methodRole? callee.name.text
    let argument ← call.arguments.head?
    some (role, argument)
  else none

/-- A place in a file, in messages. -/
def place (path : String) (line : Nat) : String := path ++ ":" ++ Number.natText line

/-- The registration of a function or of a type. -/
def register (registry : Registry) (registration : Registration) : Run Registry := do
  Run.debug ("Registered " ++ registration.role.title ++ " " ++ registration.name ++ " at " ++
    place registration.filePath registration.line)
  pure (registry.record registration)

/-- Looks at one call of a file. -/
def scanCall (file : SourceFile) (registry : Registry) (placed : Go.PlacedCall) : Run Registry :=
  match registering? placed.call with
  | none => pure registry
  | some (role, argument) =>
    let line := placed.call.line
    match Subject.ofArgument file.root placed.scope argument with
    | .function name => registry.register ⟨name, role, none, file.path, line⟩
    | .type written =>
      let name := Go.TypeName.baseName written
      registry.register ⟨name, role, some name, file.path, line⟩
    | .unknown name => do
      Run.debug ("Cannot resolve type of &" ++ name ++ " registered at " ++
        place file.path line)
      pure registry
    | .other => pure registry

/-- Looks at one file. -/
def scanFile (registry : Registry) (file : SourceFile) : Run Registry := do
  Run.poll
  file.root.visitCalls none registry (scanCall file)

/-- The registrations of all files. -/
def scan (files : List SourceFile) : Run Registry := Run.fold files {} scanFile

end WorkflowGraph.Registry
