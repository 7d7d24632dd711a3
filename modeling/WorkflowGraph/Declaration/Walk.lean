import WorkflowGraph.Body.Extract
import WorkflowGraph.Declaration.Basic
import WorkflowGraph.Declaration.Filter
import WorkflowGraph.Go.Summary

/-!
# Finding declarations

The functions of all files, in order, are classified; those with a role that pass the filters
become declarations.
-/

namespace WorkflowGraph

/-- The entries of one declaration of parameters: one for each name, or a nameless one. -/
def parameterEntries (declaration : Go.Node) : List Parameter :=
  match declaration.field? .type with
  | none => []
  | some type =>
    let typeName :=
      if declaration.kind = .variadicParameterDeclaration then "..." ++ type.text else type.text
    match declaration.fields .name with
    | [] => [⟨"", typeName⟩]
    | names => names.map fun name => ⟨name.text, typeName⟩

/-- The parameters of a list. -/
def parameterList (list : Go.Node) : List Parameter := list.phrases.flatMap parameterEntries

/-- The parameters of a function. -/
def parametersOf (function : Go.Node) : List Parameter :=
  match function.field? .parameters with
  | none => []
  | some list => parameterList list

/-- The types that a function returns. -/
def returnTypesOf (function : Go.Node) : List String :=
  match function.field? .result with
  | none => []
  | some result =>
    if result.kind = .parameterList then (parameterList result).map Parameter.typeName
    else [result.text]

/-- How declarations are selected. -/
structure Selection where
  rules : List Rule := Rule.standard
  package : Filter := .any
  name : Filter := .any

/-- The declaration of a candidate with its role. -/
def declare (file : SourceFile) (candidate : Candidate) (role : NodeRole) : Run Declaration := do
  Run.debug ("Classified " ++ candidate.qualifiedName ++ " as " ++ role.label)
  let body ← Body.extract file.imports candidate.function
  pure
    { name := candidate.name
      receiverType := candidate.receiver
      package := file.package
      filePath := file.path
      line := candidate.function.line
      role
      description := Go.summary? file.root candidate.function
      parameters := parametersOf candidate.function
      returnTypes := returnTypesOf candidate.function
      body }

/-- Looks at one function of a file. -/
def declareFunction (selection : Selection) (registry : Registry) (file : SourceFile)
    (declarations : List Declaration) (function : Go.Node) : Run (List Declaration) :=
  match Candidate.ofFunction? file function with
  | none => pure declarations
  | some candidate => do
    let qualified := candidate.qualifiedName
    match ← classify selection.rules registry candidate with
    | none => pure declarations
    | some role =>
      if !selection.package.accepts file.package then do
        Run.debug ("Filtered out " ++ qualified ++ " (package " ++ file.package ++ ")")
        pure declarations
      else if !selection.name.accepts candidate.name && !selection.name.accepts qualified then do
        Run.debug ("Filtered out " ++ qualified ++ " by name")
        pure declarations
      else do
        pure (declarations ++ [← declare file candidate role])

/-- The declarations of all files. -/
def walk (selection : Selection) (registry : Registry) (files : List SourceFile) :
    Run (List Declaration) := do
  Run.debug ("Classification rules: " ++ Text.joinWith ", " (selection.rules.map Rule.label))
  Run.fold files [] fun declarations file => do
    Run.poll
    Run.fold file.functions declarations (declareFunction selection registry file)

end WorkflowGraph
