import WorkflowGraph.Proofs.Registries
import WorkflowGraph.Proofs.WorkflowCalls
import WorkflowGraph.Registry.Scan

/-!
# What is registered by a bare name

A call such as `w.RegisterActivity(x)` registers the function `x`, or the type of the variable `x`
if `x` is one.  Whether it is one is found out by looking for a binding of `x` in the innermost
function around the call, and then in the whole file.

Where a binding of `x` stands in a file can be told by the innermost function around it: there is
none for the variables of the package, and for any other the function stands around the call or it
does not.  The look through the file makes no difference between them.  So `x` is registered by
name exactly if nothing in the file binds it (`registered_by_name_iff`), and a local variable of
some other function turns the registration of a function into that of a type
(`local_of_refund_is_registered`).
-/

namespace WorkflowGraph

open Go (Node PlacedCall)

/-! ## Functions around a node -/

namespace Go.Node

variable {root inner function : Node} {scope : Option Node}

mutual

/-- The function that a node is placed in is the one around the tree, or a function of the tree
that the node stands in. -/
theorem function_of_mem_placed {inner function : Node} (scope : Option Node) : ∀ root : Node,
    (inner, some function) ∈ root.placed scope → scope = some function ∨
      function ∈ root.preorder ∧ function.hasOwnScope = true ∧ inner ∈ function.preorder
  | mk label children, h => by
      rw [placed, List.mem_cons] at h
      rcases h with heq | hbelow
      · exact Or.inl (Prod.mk.inj heq).2.symm
      · rcases function_of_mem_placedAll _ children hbelow with hscope | ⟨hfunction, hrest⟩
        · have hinner : inner ∈ preorderAll children := by
            rw [← map_fst_placedAll _ children]
            exact List.mem_map_of_mem hbelow
          unfold innerScope at hscope
          split at hscope
          · next hown =>
              obtain rfl := Option.some.inj hscope
              refine Or.inr ⟨self_mem_preorder _, hown, ?_⟩
              rw [preorder]
              exact List.mem_cons_of_mem _ hinner
          · exact Or.inl hscope
        · rw [preorder]
          exact Or.inr ⟨List.mem_cons_of_mem _ hfunction, hrest⟩

theorem function_of_mem_placedAll {inner function : Node} (scope : Option Node) :
    ∀ nodes : List Node, (inner, some function) ∈ placedAll scope nodes →
      scope = some function ∨
        function ∈ preorderAll nodes ∧ function.hasOwnScope = true ∧ inner ∈ function.preorder
  | [], h => by
      rw [placedAll] at h
      cases h
  | node :: rest, h => by
      rw [placedAll, List.mem_append] at h
      rw [preorderAll, List.mem_append]
      rcases h with hnode | hrest
      · rcases function_of_mem_placed scope node hnode with hscope | ⟨hfunction, hothers⟩
        · exact Or.inl hscope
        · exact Or.inr ⟨Or.inl hfunction, hothers⟩
      · rcases function_of_mem_placedAll scope rest hrest with hscope | ⟨hfunction, hothers⟩
        · exact Or.inl hscope
        · exact Or.inr ⟨Or.inr hfunction, hothers⟩

end

theorem mem_preorder_of_mem_placed (h : (inner, scope) ∈ root.placed none) :
    inner ∈ root.preorder := by
  rw [← map_fst_placed none root]
  exact List.mem_map_of_mem h

theorem exists_mem_placed (h : inner ∈ root.preorder) :
    ∃ scope, (inner, scope) ∈ root.placed none := by
  rw [← map_fst_placed none root] at h
  obtain ⟨⟨node, scope⟩, hplace, rfl⟩ := List.mem_map.mp h
  exact ⟨scope, hplace⟩

/-! ## Bindings -/

/-- The node binds the name to a type. -/
def Binds (node : Node) (name : String) : Prop := ∃ type, node.boundType? name = some type

/-- Some node of the tree binds the name to a type. -/
def BoundIn (tree : Node) (name : String) : Prop := ∃ node ∈ tree.preorder, node.Binds name

/-- Variables are bound by variable declarations, of either form. -/
theorem Binds.kind {node : Node} {name : String} (h : node.Binds name) :
    node.kind = .varSpec ∨ node.kind = .shortVarDeclaration := by
  obtain ⟨type, htype⟩ := h
  unfold boundType? at htype
  split at htype
  · next hkind => exact Or.inl hkind
  · next hkind => exact Or.inr hkind
  · cases htype

/-- A type that is found for a name comes from a binding. -/
theorem binding_of_localType? {tree : Node} {name type : String}
    (h : tree.localType? name = some type) :
    ∃ node ∈ tree.preorder, node.boundType? name = some type :=
  List.exists_of_findSome?_eq_some h

theorem localType?_eq_none_iff {tree : Node} {name : String} :
    tree.localType? name = none ↔ ¬tree.BoundIn name := by
  rw [localType?, List.findSome?_eq_none_iff]
  constructor
  · rintro hnone ⟨node, hnode, type, htype⟩
    rw [hnone node hnode] at htype
    cases htype
  · intro hunbound node hnode
    cases htype : node.boundType? name with
    | none => rfl
    | some type => exact absurd ⟨node, hnode, type, htype⟩ hunbound

theorem BoundIn.trans {tree root : Node} {name : String} (h : tree.BoundIn name)
    (htree : tree ∈ root.preorder) : root.BoundIn name := by
  obtain ⟨node, hnode, hbinds⟩ := h
  exact ⟨node, mem_preorder_trans hnode root htree, hbinds⟩

end Go.Node

/-- A function around the call binds the name. -/
def BoundAround (root call : Node) (name : String) : Prop :=
  ∃ function ∈ root.preorder, function.hasOwnScope = true ∧ call ∈ function.preorder ∧
    function.BoundIn name

/-- A variable declaration of the package binds the name: one outside all functions. -/
def BoundInPackage (root : Node) (name : String) : Prop :=
  ∃ spec, (spec, none) ∈ root.placed none ∧ spec.kind = .varSpec ∧ spec.Binds name

/-- The name is bound somewhere else in the file. -/
inductive BoundElsewhere (root call : Node) (name : String) : Prop where
  /-- The innermost function around the binding does not stand around the call. -/
  | inFunction {node function : Node} (hplace : (node, some function) ∈ root.placed none)
      (haway : call ∉ function.preorder) (hbinds : node.Binds name)
  /-- A short declaration outside all functions, which is no Go. -/
  | stray {node : Node} (hplace : (node, none) ∈ root.placed none)
      (hkind : node.kind = .shortVarDeclaration) (hbinds : node.Binds name)

/-- A binding stands around the call, in the package or elsewhere. -/
theorem boundIn_iff (root call : Node) (name : String) : root.BoundIn name ↔
    BoundAround root call name ∨ BoundInPackage root name ∨ BoundElsewhere root call name := by
  constructor
  · rintro ⟨node, hnode, hbinds⟩
    obtain ⟨scope, hplace⟩ := Node.exists_mem_placed hnode
    cases scope with
    | none =>
        rcases hbinds.kind with hkind | hkind
        · exact Or.inr (Or.inl ⟨node, hplace, hkind, hbinds⟩)
        · exact Or.inr (Or.inr (.stray hplace hkind hbinds))
    | some function =>
        by_cases hcall : call ∈ function.preorder
        · rcases Node.function_of_mem_placed none root hplace with hscope | ⟨hmem, hown, hinner⟩
          · cases hscope
          · exact Or.inl ⟨function, hmem, hown, hcall, node, hinner, hbinds⟩
        · exact Or.inr (Or.inr (.inFunction hplace hcall hbinds))
  · rintro (⟨function, hmem, _, _, hbound⟩ | ⟨spec, hplace, _, hbinds⟩ | hplace | hplace)
    · exact hbound.trans hmem
    · exact ⟨spec, Node.mem_preorder_of_mem_placed hplace, hbinds⟩
    · next hbinds => exact ⟨_, Node.mem_preorder_of_mem_placed hplace, hbinds⟩
    · next hbinds => exact ⟨_, Node.mem_preorder_of_mem_placed hplace, hbinds⟩

namespace Registry

/-! ## What a call records -/

/-- The call registers its first argument: the name of the method says so, and the method is
selected on an identifier or on a selection. -/
structure Registers (call : Node) (role : RegisteredRole) (argument : Node) : Prop where
  method : ∃ operand name, Calls call (some operand) name ∧
    (operand.kind = .identifier ∨ operand.kind = .selectorExpression) ∧
    methodRole? name.text = some role
  first : call.arguments.head? = some argument

theorem registering?_eq_some_iff {call argument : Node} {role : RegisteredRole} :
    registering? call = some (role, argument) ↔ Registers call role argument := by
  constructor
  · intro h
    obtain ⟨callee, hcallee, h⟩ := Option.bind_eq_some_iff.mp h
    obtain ⟨operand, hoperand, h⟩ := Option.bind_eq_some_iff.mp h
    split at h
    · next hkind =>
        obtain ⟨found, hrole, h⟩ := Option.bind_eq_some_iff.mp h
        obtain ⟨first, hfirst, h⟩ := Option.bind_eq_some_iff.mp h
        obtain ⟨rfl, rfl⟩ := Prod.mk.inj (Option.some.inj h)
        have hcalls := Node.callee?_eq_some_iff.mp hcallee
        rw [hoperand] at hcalls
        exact ⟨⟨operand, callee.name, hcalls, by simpa using hkind, hrole⟩, hfirst⟩
    · cases h
  · rintro ⟨⟨operand, name, hcalls, hkind, hrole⟩, hfirst⟩
    unfold registering?
    simp [Node.callee?_eq_some_iff.mpr hcalls, hkind, hrole, hfirst]

/-- What is recorded for a subject. -/
def Subject.registration? (subject : Subject) (role : RegisteredRole) (path : String) (line : Nat) :
    Option Registration :=
  match subject with
  | .function name => some ⟨name, role, none, path, line⟩
  | .type written =>
    some ⟨Go.TypeName.baseName written, role, some (Go.TypeName.baseName written), path, line⟩
  | .unknown _ => none
  | .other => none

/-- What is recorded for a call. -/
def registration? (file : SourceFile) (placed : PlacedCall) : Option Registration :=
  (registering? placed.call).bind fun found =>
    (Subject.ofArgument file.root placed.scope found.2).registration? found.1 file.path
      placed.call.line

/-- What is recorded for a file, in the order of its calls. -/
def registrationsIn (file : SourceFile) : List Registration :=
  (file.root.calls none).filterMap (registration? file)

theorem scanCall_computes (file : SourceFile) (registry : Registry) (placed : PlacedCall) :
    (scanCall file registry placed).Computes
      ((registration? file placed).elim registry registry.record) := by
  unfold scanCall registration?
  split
  · next hnone =>
      rw [hnone]
      exact Run.computes_pure registry
  · next role argument hfound =>
      rw [hfound, Option.bind_some]
      cases Subject.ofArgument file.root placed.scope argument with
      | function name => exact (Run.computes_pure _).after_say
      | type written => exact (Run.computes_pure _).after_say
      | unknown name => exact (Run.computes_pure registry).after_say
      | other => exact Run.computes_pure registry

/-- To record what is found among some items is to record all of it. -/
theorem foldl_elim_record {α : Type} (found? : α → Option Registration) (items : List α)
    (registry : Registry) :
    items.foldl (fun registry item => (found? item).elim registry registry.record) registry =
      (items.filterMap found?).foldl record registry := by
  induction items generalizing registry with
  | nil => rfl
  | cons item others ih =>
      rw [List.foldl_cons, ih, List.filterMap_cons]
      cases found? item <;> rfl

theorem scanFile_computes (registry : Registry) (file : SourceFile) :
    (scanFile registry file).Computes ((registrationsIn file).foldl record registry) := by
  have hvisit := Node.visitCalls_computes (scanCall_computes file) file.root none registry
  rw [foldl_elim_record] at hvisit
  exact hvisit.after_poll

/-- A scan records the registrations of its files, one after the other. -/
theorem scan_computes (files : List SourceFile) :
    (scan files).Computes (ofList (files.flatMap registrationsIn)) := by
  have hfold := Run.computes_fold scanFile_computes files {}
  rw [ofList, List.foldl_flatMap]
  exact hfold

section BareNames

variable {root argument : Node} {scope : Option Node} {name type : String}

/-- No type is found for a name that nothing in the file binds, and for no other. -/
theorem variableType?_eq_none_iff (hscope : ∀ function ∈ scope, function ∈ root.preorder) :
    variableType? root scope name = none ↔ ¬root.BoundIn name := by
  unfold variableType?
  cases hlocal : (scope.getD root).localType? name with
  | none => exact Node.localType?_eq_none_iff
  | some type =>
      obtain ⟨node, hnode, htype⟩ := Node.binding_of_localType? hlocal
      have hinside : scope.getD root ∈ root.preorder := by
        cases scope with
        | none => exact Node.self_mem_preorder root
        | some function => exact hscope function rfl
      have hbound : root.BoundIn name :=
        ⟨node, Node.mem_preorder_trans hnode root hinside, type, htype⟩
      simp [hbound]

/-- The type of a variable comes from a binding in the file, and from one in the innermost function
if that has any. -/
theorem binding_of_variableType? (hscope : ∀ function ∈ scope, function ∈ root.preorder)
    (h : variableType? root scope name = some type) :
    ∃ node ∈ root.preorder, node.boundType? name = some type ∧
      ∀ function ∈ scope, function.BoundIn name → node ∈ function.preorder := by
  unfold variableType? at h
  split at h
  · next found hlocal =>
      obtain rfl := Option.some.inj h
      obtain ⟨node, hnode, htype⟩ := Node.binding_of_localType? hlocal
      cases scope with
      | none => exact ⟨node, hnode, htype, by simp⟩
      | some function =>
          refine ⟨node, Node.mem_preorder_trans hnode root (hscope function rfl), htype, ?_⟩
          rintro _ ⟨⟩ _
          exact hnode
  · next hlocal =>
      obtain ⟨node, hnode, htype⟩ := Node.binding_of_localType? h
      refine ⟨node, hnode, htype, ?_⟩
      rintro function ⟨⟩ hbound
      exact absurd hbound (Node.localType?_eq_none_iff.mp hlocal)

theorem scope_mem_preorder {placed : PlacedCall} (h : placed ∈ root.calls none) :
    ∀ function ∈ placed.scope, function ∈ root.preorder := by
  intro function hfunction
  obtain ⟨place, hplace, rfl⟩ := List.mem_map.mp h
  have hmem : (place.1, some function) ∈ root.placed none := by
    rw [← Option.mem_def.mp hfunction]
    exact (List.mem_filter.mp hplace).1
  rcases Node.function_of_mem_placed none root hmem with hnone | ⟨hroot, _⟩
  · cases hnone
  · exact hroot

variable {file : SourceFile} {placed : PlacedCall} {role : RegisteredRole}

/-- A bare name is recorded as it stands if it has no type. -/
theorem registration?_of_variableType?_none (hregisters : Registers placed.call role argument)
    (hkind : argument.kind = .identifier)
    (htype : variableType? file.root placed.scope argument.text = none) :
    registration? file placed =
      some ⟨argument.text, role, none, file.path, placed.call.line⟩ := by
  rw [registration?, registering?_eq_some_iff.mpr hregisters, Option.bind_some, Subject.ofArgument]
  simp only [hkind, htype]
  rfl

/-- A bare name that has a type is recorded as that type. -/
theorem registration?_of_variableType?_some (hregisters : Registers placed.call role argument)
    (hkind : argument.kind = .identifier)
    (htype : variableType? file.root placed.scope argument.text = some type) :
    registration? file placed =
      some ⟨Go.TypeName.baseName type, role, some (Go.TypeName.baseName type), file.path,
        placed.call.line⟩ := by
  rw [registration?, registering?_eq_some_iff.mpr hregisters, Option.bind_some, Subject.ofArgument]
  simp only [hkind, htype]
  rfl

end BareNames

end Registry

/-- **What a bare name registers.**  A scan records the registrations of all calls.  A call with a
bare name is recorded under the name exactly if no type is bound to it: not by a function around
the call, not by a variable declaration of the package, and not anywhere else in the file.  If
there is a binding, the call is recorded as a registration of the type of one, which stands in the
innermost function around the call if there is any in there. -/
theorem registered_by_name_iff (files : List SourceFile) :
    ∃ registry, (Registry.scan files).outcome = .ok registry ∧
      registry.registrations = files.flatMap Registry.registrationsIn ∧
      ∀ file ∈ files, ∀ placed ∈ file.root.calls none, ∀ role argument,
        Registry.Registers placed.call role argument → argument.kind = .identifier →
          (Registry.registration? file placed =
              some ⟨argument.text, role, none, file.path, placed.call.line⟩ ↔
            ¬BoundAround file.root placed.call argument.text ∧
              ¬BoundInPackage file.root argument.text ∧
              ¬BoundElsewhere file.root placed.call argument.text) ∧
          (BoundAround file.root placed.call argument.text ∨
              BoundInPackage file.root argument.text ∨
              BoundElsewhere file.root placed.call argument.text →
            ∃ node ∈ file.root.preorder, ∃ type, node.boundType? argument.text = some type ∧
              (∀ function ∈ placed.scope, function.BoundIn argument.text →
                node ∈ function.preorder) ∧
              Registry.registration? file placed =
                some ⟨Go.TypeName.baseName type, role, some (Go.TypeName.baseName type),
                  file.path, placed.call.line⟩) := by
  refine ⟨_, (Registry.scan_computes files).outcome_eq, Registry.registrations_ofList _, ?_⟩
  intro file _ placed hplaced role argument hregisters hkind
  have hscope := Registry.scope_mem_preorder hplaced
  have hnone : Registry.variableType? file.root placed.scope argument.text = none ↔
      ¬file.root.BoundIn argument.text := Registry.variableType?_eq_none_iff hscope
  rw [← not_or, ← not_or, ← boundIn_iff file.root placed.call argument.text, ← hnone]
  cases htype : Registry.variableType? file.root placed.scope argument.text with
  | none =>
      have hrecorded := Registry.registration?_of_variableType?_none hregisters hkind htype
      exact ⟨⟨fun _ => rfl, fun _ => hrecorded⟩, fun hbound => absurd hbound (hnone.mp htype)⟩
  | some type =>
      have hrecorded := Registry.registration?_of_variableType?_some hregisters hkind htype
      obtain ⟨node, hnode, hbinds, hinner⟩ := Registry.binding_of_variableType? hscope htype
      refine ⟨⟨fun hname => ?_, fun hnot => by cases hnot⟩,
        fun _ => ⟨node, hnode, type, hbinds, hinner, hrecorded⟩⟩
      have howner := congrArg Registration.owningType
        (Option.some.inj (hrecorded.symm.trans hname))
      cases howner

/-- A file that registers the function `Charge`.  Another function of the file has a variable of
the same name. -/
def refundSource : String :=
  "package main\n\nfunc main() \x7b\n\tw.RegisterActivity(Charge)\n\x7d\n\n" ++
    "func Charge(ctx context.Context) error \x7b return nil \x7d\n\n" ++
    "func Refund() \x7b\n\tCharge := &Ledger\x7b\x7d\n\tCharge.back = true\n\x7d\n"

/-- The type of the variable is registered, although it is bound neither around the call nor by the
package. -/
theorem local_of_refund_is_registered :
    ∃ file ∈ (SourceFile.ofText "main.go" refundSource).toOption,
      (∃ placed ∈ file.root.calls none, ∃ argument,
        Registry.Registers placed.call .activity argument ∧ argument.kind = .identifier ∧
        argument.text = "Charge" ∧ ¬BoundAround file.root placed.call "Charge" ∧
        ¬BoundInPackage file.root "Charge") ∧
      ∃ registry, (Registry.scan [file]).outcome = .ok registry ∧
        registry.registrations = [⟨"Ledger", .activity, some "Ledger", "main.go", 4⟩] := by
  have hfile : ∃ file ∈ (SourceFile.ofText "main.go" refundSource).toOption,
      (∃ placed ∈ file.root.calls none, ∃ found ∈ Registry.registering? placed.call,
        found.1 = .activity ∧ found.2.kind = .identifier ∧ found.2.text = "Charge" ∧
        placed.call.kind = .callExpression) ∧
      (∀ function ∈ file.root.preorder, function.hasOwnScope = true →
        (∀ node ∈ function.preorder, node.boundType? "Charge" = none) ∨
          ∀ node ∈ function.preorder, node.kind ≠ .callExpression) ∧
      (∀ place ∈ file.root.placed none, place.2.isNone = true →
        place.1.boundType? "Charge" = none) ∧
      Registry.registrationsIn file = [⟨"Ledger", .activity, some "Ledger", "main.go", 4⟩] := by
    decide +kernel
  obtain ⟨file, hfile, ⟨placed, hplaced, ⟨role, argument⟩, hfound, rfl, hkind, hname, hcall⟩,
    hfunctions, hpackage, hrecorded⟩ := hfile
  refine ⟨file, hfile, ⟨placed, hplaced, argument,
    Registry.registering?_eq_some_iff.mp hfound, hkind, hname, ?_, ?_⟩, _,
    (Registry.scan_computes [file]).outcome_eq, ?_⟩
  · rintro ⟨function, hfunction, hown, haround, node, hnode, type, htype⟩
    rcases hfunctions function hfunction hown with hunbound | hnocall
    · rw [hunbound node hnode] at htype
      cases htype
    · exact hnocall placed.call haround hcall
  · rintro ⟨spec, hplace, _, type, htype⟩
    rw [hpackage (spec, none) hplace rfl] at htype
    cases htype
  · rw [Registry.registrations_ofList, List.flatMap_singleton, hrecorded]

end WorkflowGraph
