import Mathlib.Data.List.Basic
import WorkflowGraph.Declaration.Walk
import WorkflowGraph.Proofs.WorkflowCalls

/-!
# Filters only select

A walk asks its filters between the role of a function and the reading of its body, so that the
bodies of functions that are left out are not read.  That this saves work and changes nothing else
is a law about two walks: the one with filters ends with those declarations of the one without that
pass, in the same order and with the same fields.

The walk is first said as a value.  A function has a declaration if a rule gives it a role
(`SourceFile.declaration?`), and neither the role nor the declaration asks for a filter; a walk then
lists the declarations of all functions that pass (`walk_computes`).

Main statement: `filters_only_select`, for any filters, and for those that a pattern stands for, in
whatever way patterns are read.
-/

namespace WorkflowGraph

/-! ## Roles and declarations as values -/

/-- The answer of a rule. -/
def Rule.answer (registry : Registry) (candidate : Candidate) : Rule → Option NodeRole
  | registeredWorkflow => if candidate.isRegisteredWorkflow registry then some .workflow else none
  | registeredActivity => if candidate.isRegisteredActivity registry then some .activity else none
  | workflowSignature =>
    if candidate.takesContext && candidate.hasSdkCall then some .workflow else none

theorem Rule.ask_computes (registry : Registry) (candidate : Candidate) (rule : Rule) :
    (rule.ask registry candidate).Computes (rule.answer registry candidate) := by
  cases rule with
  | registeredWorkflow => exact Run.computes_pure _
  | registeredActivity => exact Run.computes_pure _
  | workflowSignature => exact candidate.ask_workflowSignature_computes registry

/-- The role of a candidate is the first answer of a rule. -/
theorem classify_computes (rules : List Rule) (registry : Registry) (candidate : Candidate) :
    (classify rules registry candidate).Computes
      (rules.findSome? (Rule.answer registry candidate)) := by
  induction rules with
  | nil => exact Run.computes_pure none
  | cons rule others ih =>
      refine (rule.ask_computes registry candidate).bind ?_
      rw [List.findSome?_cons]
      cases rule.answer registry candidate with
      | none => exact ih
      | some role => exact Run.computes_pure _

/-- The declaration of a candidate with its role, as a value. -/
def Candidate.declaration (file : SourceFile) (candidate : Candidate) (role : NodeRole) :
    Declaration where
  name := candidate.name
  receiverType := candidate.receiver
  package := file.package
  filePath := file.path
  line := candidate.function.line
  role
  description := Go.summary? file.root candidate.function
  parameters := parametersOf candidate.function
  returnTypes := returnTypesOf candidate.function
  body := Body.extracted file.imports candidate.function

theorem declare_computes (file : SourceFile) (candidate : Candidate) (role : NodeRole) :
    (declare file candidate role).Computes (candidate.declaration file role) := by
  refine Run.Computes.after_say ?_
  exact (Body.extract_computes file.imports candidate.function).bind (Run.computes_pure _)

/-- The declaration of a function that has a name and a role. -/
def SourceFile.declaration? (rules : List Rule) (registry : Registry) (file : SourceFile)
    (function : Go.Node) : Option Declaration := do
  let candidate ← Candidate.ofFunction? file function
  let role ← rules.findSome? (Rule.answer registry candidate)
  some (candidate.declaration file role)

/-- The declarations of the functions of files, in order. -/
def declarationsIn (rules : List Rule) (registry : Registry) (files : List SourceFile) :
    List Declaration :=
  files.flatMap fun file => file.functions.filterMap (file.declaration? rules registry)

/-! ## What a walk lists -/

/-- Whether a declaration is selected: its package passes, and its bare or its qualified name. -/
def Selection.selects (selection : Selection) (declaration : Declaration) : Bool :=
  selection.package.accepts declaration.package &&
    (selection.name.accepts declaration.name || selection.name.accepts declaration.qualifiedName)

section Walk

variable (selection : Selection) (registry : Registry)

/-- One function adds its declaration, if it has one and this is selected. -/
theorem declareFunction_computes (file : SourceFile) (declarations : List Declaration)
    (function : Go.Node) :
    (declareFunction selection registry file declarations function).Computes (declarations ++
      ((file.declaration? selection.rules registry function).toList.filter selection.selects)) := by
  unfold declareFunction SourceFile.declaration?
  cases Candidate.ofFunction? file function with
  | none => exact (List.append_nil declarations).symm ▸ Run.computes_pure _
  | some candidate =>
      refine (classify_computes selection.rules registry candidate).bind ?_
      cases hrole : selection.rules.findSome? (Rule.answer registry candidate) with
      | none =>
          simp only [bind, Option.bind_some, hrole, Option.bind_none]
          exact (List.append_nil declarations).symm ▸ Run.computes_pure _
      | some role =>
          have hselects : selection.selects (candidate.declaration file role) =
              (selection.package.accepts file.package && (selection.name.accepts candidate.name ||
                selection.name.accepts candidate.qualifiedName)) := rfl
          simp only [bind, Option.bind_some, hrole, Option.toList_some, List.filter_cons,
            List.filter_nil, hselects, ← Bool.not_or]
          cases selection.package.accepts file.package with
          | false => exact (List.append_nil declarations).symm ▸ (Run.computes_pure _).after_say
          | true =>
              cases selection.name.accepts candidate.name ||
                  selection.name.accepts candidate.qualifiedName with
              | false =>
                  exact (List.append_nil declarations).symm ▸ (Run.computes_pure _).after_say
              | true => exact (declare_computes file candidate role).bind (Run.computes_pure _)

/-- **What a walk computes.**  It lists the declarations of all functions that are selected. -/
theorem walk_computes (files : List SourceFile) :
    (walk selection registry files).Computes
      ((declarationsIn selection.rules registry files).filter selection.selects) := by
  refine Run.Computes.after_say ?_
  rw [declarationsIn, List.filter_flatMap]
  refine Run.computes_collect (fun declarations file => Run.Computes.after_poll ?_) files []
  rw [List.filterMap_eq_flatMap_toList, List.filter_flatMap]
  exact Run.computes_collect (declareFunction_computes selection registry file) file.functions
    declarations

end Walk

/-! ## Patterns -/

/-- A text passes the filter that a pattern stands for: there is no pattern or an empty one, or it
can be read and matches the text. -/
def PassesPattern (read : PatternReader) (pattern : Option String) (text : String) : Prop :=
  pattern = none ∨ pattern = some "" ∨
    ∃ source isMatch, pattern = some source ∧ read source = some isMatch ∧ isMatch text = true

theorem Filter.accepts_ofText_iff {read : PatternReader} {pattern : Option String}
    {text : String} :
    (Filter.ofText read pattern).accepts text = true ↔ PassesPattern read pattern text := by
  unfold PassesPattern
  cases pattern with
  | none => simp [ofText, accepts]
  | some source =>
      rw [ofText]
      by_cases hempty : source = ""
      · subst hempty
        simp [accepts]
      · rw [if_neg (by simpa using hempty)]
        cases hread : read source with
        | none => simp [accepts, hempty, hread]
        | some isMatch => simp [accepts, hempty, hread]

instance (read : PatternReader) (pattern : Option String) (text : String) :
    Decidable (PassesPattern read pattern text) :=
  decidable_of_iff _ Filter.accepts_ofText_iff

/-- **Filters only select.**  Whatever the rules, the registry and the files, a walk without filters
that nobody stops ends with a list of declarations.  With any two filters it ends with those of the
list whose package passes the one and whose bare or qualified name passes the other.  The list keeps
its order, and a declaration is the same with filters and without.

Where the filters are given as patterns, and in whatever way these are read, what passes is what the
pattern matches; everything passes without a pattern or with an empty one, and nothing passes what
cannot be read as a pattern. -/
theorem filters_only_select (rules : List Rule) (registry : Registry) (files : List SourceFile) :
    ∃ all, (walk { rules } registry files).outcome = .ok all ∧
      (∀ package name : Filter, (walk { rules, package, name } registry files).outcome =
        .ok (all.filter fun declaration => package.accepts declaration.package &&
          (name.accepts declaration.name || name.accepts declaration.qualifiedName))) ∧
      ∀ (read : PatternReader) (package name : Option String),
        (walk { rules, package := .ofText read package, name := .ofText read name }
            registry files).outcome =
          .ok (all.filter fun declaration => PassesPattern read package declaration.package ∧
            (PassesPattern read name declaration.name ∨
              PassesPattern read name declaration.qualifiedName)) := by
  have hall : (walk { rules } registry files).outcome =
      .ok (declarationsIn rules registry files) := by
    have hevery : (declarationsIn rules registry files).filter
        (Selection.selects { rules }) = declarationsIn rules registry files :=
      List.filter_eq_self.mpr fun _ _ => rfl
    exact hevery ▸ (walk_computes { rules } registry files).outcome_eq
  refine ⟨_, hall, fun package name => (walk_computes _ registry files).outcome_eq, ?_⟩
  intro read package name
  rw [(walk_computes _ registry files).outcome_eq]
  refine congrArg Except.ok (List.filter_congr fun declaration _ => ?_)
  rw [Bool.eq_iff_iff, decide_eq_true_eq]
  simp only [Selection.selects, Bool.and_eq_true, Bool.or_eq_true, Filter.accepts_ofText_iff]

/-- A file with two workflows. -/
def ferrySource : String :=
  "package ferry\n\nfunc Load(c workflow.Context) \x7b workflow.Sleep(c, 1) \x7d\n\n" ++
    "func Sail(c workflow.Context) \x7b workflow.Sleep(c, 2) \x7d\n"

/-- A reader for which a pattern matches its own text, and a text that starts with a bracket is no
pattern. -/
def plainPattern : PatternReader := fun source =>
  if Text.startsWith "(" source then none else some (· == source)

/-- Of two workflows a pattern keeps the one and drops the other, and the one that is kept is the same as
without a filter; what is no pattern drops both. -/
theorem ferry_filters_select :
    ∃ file, SourceFile.ofText "ferry.go" ferrySource = .ok file ∧
      ∃ load sail, (load.name, sail.name) = ("Load", "Sail") ∧
        (walk {} {} [file]).outcome = .ok [load, sail] ∧
        (walk { name := .ofText plainPattern (some "Sail") } {} [file]).outcome = .ok [sail] ∧
        (walk { package := .ofText plainPattern (some "(") } {} [file]).outcome = .ok [] := by
  have hsource : ∃ file ∈ (SourceFile.ofText "ferry.go" ferrySource).toOption,
      (walk {} {} [file]).outcome.toOption.map
          (List.map fun found => (found.name, found.qualifiedName)) =
        some [("Load", "Load"), ("Sail", "Sail")] := by
    decide +kernel
  obtain ⟨file, hfile, hnames⟩ := hsource
  obtain ⟨all, hall, hfilters, _⟩ := filters_only_select Rule.standard {} [file]
  rw [hall] at hnames
  obtain ⟨load, others, rfl, hload, hothers⟩ := List.map_eq_cons_iff.mp (Option.some.inj hnames)
  obtain ⟨sail, _, rfl, hsail, hnil⟩ := List.map_eq_cons_iff.mp hothers
  obtain rfl := List.map_eq_nil_iff.mp hnil
  obtain ⟨hloadName, hloadKey⟩ := Prod.mk.inj hload
  obtain ⟨hsailName, hsailKey⟩ := Prod.mk.inj hsail
  have hread : SourceFile.ofText "ferry.go" ferrySource = .ok file := by
    cases hparsed : SourceFile.ofText "ferry.go" ferrySource with
    | error failure => rw [hparsed] at hfile; cases hfile
    | ok parsed => rw [hparsed] at hfile; cases hfile; rfl
  refine ⟨file, hread, load, sail, by rw [hloadName, hsailName], hall, ?_, ?_⟩
  · rw [hfilters .any (.ofText plainPattern (some "Sail"))]
    simp only [List.filter_cons, List.filter_nil, hloadName, hloadKey, hsailName, hsailKey]
    rfl
  · rw [hfilters (.ofText plainPattern (some "(")) .any]
    rfl

end WorkflowGraph
