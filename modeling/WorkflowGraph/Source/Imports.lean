import WorkflowGraph.Go.Query

/-!
# Imports of the SDK

A Go file may bind the packages of the Temporal SDK to names of its own choice, or import the
names of the workflow package without a qualifier.
-/

namespace WorkflowGraph

/-- The names that a file uses for the packages of the SDK. -/
structure SdkImports where
  workflow : String := "workflow"
  activity : String := "activity"
  temporal : String := "temporal"
  worker : String := "worker"
  /-- The workflow package is imported without a qualifier. -/
  workflowUnqualified : Bool := false
deriving DecidableEq, Repr

/-- The packages of the SDK. -/
inductive SdkPackage where
  | workflow
  | activity
  | temporal
  | worker
deriving DecidableEq, Repr

/-- The package that an import path names. -/
def SdkPackage.ofPath? (path : String) : Option SdkPackage :=
  if path = "go.temporal.io/sdk/workflow" then some .workflow
  else if path = "go.temporal.io/sdk/activity" then some .activity
  else if path = "go.temporal.io/sdk/temporal" then some .temporal
  else if path = "go.temporal.io/sdk/worker" then some .worker
  else none

namespace SdkImports

/-- Binds a package to a name. -/
def bind (imports : SdkImports) (package : SdkPackage) (name : String) : SdkImports :=
  match package with
  | .workflow => { imports with workflow := name }
  | .activity => { imports with activity := name }
  | .temporal => { imports with temporal := name }
  | .worker => { imports with worker := name }

/-- Adds one import: a path, and the name that the file gives it. -/
def add (imports : SdkImports) (path : String) (alias? : Option String) : SdkImports :=
  match SdkPackage.ofPath? path, alias? with
  | some package, some name =>
    if name = "." then
      if package = .workflow then { imports with workflowUnqualified := true } else imports
    else if name = "_" then imports
    else imports.bind package name
  | _, _ => imports

/-- The import specifications of an import declaration. -/
def specs (declaration : Go.Node) : List Go.Node :=
  declaration.phrases.flatMap fun child =>
    match child.kind with
    | .importSpec => [child]
    | .importSpecList => child.phrases.filter fun spec => spec.kind = .importSpec
    | _ => []

/-- Adds the import that a specification spells out. -/
def addSpec (imports : SdkImports) (spec : Go.Node) : SdkImports :=
  match (spec.field? .path).bind Go.Node.stringValue? with
  | none => imports
  | some path => imports.add path ((spec.field? .name).map Go.Node.text)

/-- The imports of a file, from its syntax tree. -/
def ofTree (root : Go.Node) : SdkImports :=
  let declarations := root.phrases.filter fun child => child.kind = .importDeclaration
  (declarations.flatMap specs).foldl addSpec {}

/-- Whether a call with this qualifier, or with none, is a call of the workflow package. -/
def isWorkflowQualifier (imports : SdkImports) : Option String → Bool
  | some qualifier => qualifier == imports.workflow
  | none => imports.workflowUnqualified

/-- Whether a name is one of the packages of the SDK. -/
def isSdkReceiver (imports : SdkImports) (receiver : String) : Bool :=
  receiver == imports.workflow || receiver == imports.activity || receiver == imports.temporal ||
    receiver == imports.worker

end SdkImports

end WorkflowGraph
