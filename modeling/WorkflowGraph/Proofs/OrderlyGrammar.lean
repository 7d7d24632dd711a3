import Mathlib.Logic.Basic
import WorkflowGraph.Go.Parse
import WorkflowGraph.Proofs.OrderlyTrees

/-!
# The grammar makes orderly trees

A production reads on from the nodes of its level and leaves more of them, or fewer and larger ones.
That the nodes stay orderly is a property of productions (`KeepsOrder`) that goes through all ways to
build one from others.  It is a class with an instance for each of these ways, so that for most
productions it is inferred; where a production looks at its place in the source first, the cases are
written out.  The one production that does not lead a call by what it calls is `allocation`, which
reads a word.

The circle of productions is closed by `keepsOrder_parseGoal`, and `parse?_orderly` says it of whole
sources: their trees are orderly, and no number occurs twice.
-/

namespace WorkflowGraph.Go

/-- All nodes of the level are orderly. -/
def State.Orderly (s : State) : Prop := ∀ node ∈ s.finished, node.Orderly

/-- A production that leaves the nodes of its level orderly. -/
class KeepsOrder (parser : Parser) : Prop where
  after : ∀ {s later : State}, parser s = some later → s.Orderly → later.Orderly

/-- A test that comes out true, for instances to ask for. -/
class Holds (test : Bool) : Prop where
  eq_true : test = true

instance holds_true : Holds true := ⟨rfl⟩

/-! ## Places -/

namespace State

variable {s : State}

theorem orderly_level (s : State) : { s with finished := [] }.Orderly := by simp [Orderly]

theorem Orderly.cons {node : Node} (h : s.Orderly) (hnode : node.Orderly) :
    { s with finished := node :: s.finished }.Orderly :=
  List.forall_mem_cons.mpr ⟨hnode, h⟩

/-- A node made of orderly ones is orderly if it is arranged. -/
theorem orderly_nodeUpTo (first later : State) (kind : Kind) (part : Option Field)
    {children : List Node} (harranged : Arranged kind children)
    (hchildren : ∀ child ∈ children, child.Orderly) :
    (first.nodeUpTo later kind part children).Orderly :=
  Node.orderly_mk_iff.mpr ⟨harranged, hchildren⟩

theorem orderly_leaf (first later : State) (kind : Kind) (part : Option Field) :
    (first.nodeUpTo later kind part []).Orderly :=
  orderly_nodeUpTo first later kind part (arranged_nil kind) (by simp)

theorem Orderly.leaf (h : s.Orderly) (kind : Kind) (part : Option Field) (length : Nat) :
    (s.leaf kind part length).Orderly :=
  List.forall_mem_cons.mpr ⟨s.orderly_leaf _ kind part, h⟩

/-- What is true of the nodes of the level and of comments is true after passing over comments. -/
theorem forall_mem_skipFrom {P : Node → Prop} (h : ∀ node ∈ s.finished, P node)
    (hcomment : ∀ first later : State, P (first.nodeUpTo later .comment none [])) (newlines : Bool)
    (inside : Nat) (rest : List Char) :
    ∀ node ∈ (s.skipFrom newlines inside rest).finished, P node := by
  induction rest generalizing s inside with
  | nil => exact h
  | cons c rest ih =>
      rw [State.skipFrom]
      split
      · exact ih (s := s.step c rest) h _
      · split
        · exact ih (s := s.step c rest) h _
        · split
          · exact h
          · next length _ =>
              have hwith := List.forall_mem_cons.mpr ⟨hcomment s (s.advance length), h⟩
              exact ih (s := State.step { s with finished := _ } c rest) hwith _

theorem Orderly.skipFrom (h : s.Orderly) (newlines : Bool) (inside : Nat) (rest : List Char) :
    (s.skipFrom newlines inside rest).Orderly :=
  forall_mem_skipFrom h (fun first later => orderly_leaf first later .comment none) _ _ _

theorem Orderly.skip (h : s.Orderly) : s.skip.Orderly := h.skipFrom _ _ _

theorem Orderly.skipInLine (h : s.Orderly) : s.skipInLine.Orderly := h.skipFrom _ _ _

/-- Enclosing orderly nodes in one of a free kind. -/
theorem Orderly.enclose (h : s.Orderly) (first : State) {kind : Kind} (hkind : kind.isFree = true)
    (part : Option Field) : (s.enclose first kind part).Orderly := by
  refine List.forall_mem_cons.mpr ⟨?_, by simp⟩
  refine orderly_nodeUpTo first s kind part (arranged_of_isFree hkind _) ?_
  intro child hchild
  exact h child (List.mem_reverse.mp hchild)

/-- Enclosing orderly nodes where the oldest one plays a part. -/
theorem Orderly.encloseAs (h : s.Orderly) (first : State) {kind : Kind} {part : Field}
    (hkind : kind.isFreeAfter part = true) : (s.encloseAs first kind part).Orderly := by
  unfold State.encloseAs
  split
  · next label children others hsplit =>
      have hall : ∀ node ∈ Node.mk label children :: others, node.Orderly := by
        intro node hnode
        exact h node (List.mem_reverse.mp (hsplit ▸ hnode))
      obtain ⟨holdest, hothers⟩ := List.forall_mem_cons.mp hall
      refine List.forall_mem_cons.mpr ⟨?_, by simp⟩
      refine orderly_nodeUpTo first s kind none (arranged_of_isFreeAfter hkind rfl others) ?_
      exact List.forall_mem_cons.mpr ⟨Node.orderly_playing _ holdest, hothers⟩
  · exact h

end State

/-! ## Ways to build a production -/

section Combinators

variable {parser : Parser}

instance keepsOrder_leaf (kind : Kind) (part : Option Field) (length : Nat) :
    KeepsOrder fun s => some (s.skip.leaf kind part length) where
  after h hs := Option.some.inj h ▸ hs.skip.leaf kind part length

instance keepsOrder_none : KeepsOrder fun _ => none where
  after h := by cases h

instance keepsOrder_ite (test : State → Bool) (other : Parser) [KeepsOrder parser]
    [KeepsOrder other] : KeepsOrder fun s => if test s then parser s else other s where
  after h hs := by
    split at h
    · exact KeepsOrder.after h hs
    · exact KeepsOrder.after h hs

instance keepsOrder_symbol (text : String) (part : Option Field) :
    KeepsOrder (symbol text part) := by
  unfold symbol
  infer_instance

instance keepsOrder_keyword (text : String) : KeepsOrder (keyword text) := by
  unfold keyword
  infer_instance

instance keepsOrder_name (kind : Kind) (part : Option Field) (reserved : List String) :
    KeepsOrder (name kind part reserved) where
  after h hs := by
    unfold name at h
    split at h
    · cases h
    · split at h
      · cases h
      · exact Option.some.inj h ▸ hs.skip.leaf _ _ _

instance keepsOrder_terminator : KeepsOrder terminator where
  after h hs := by
    unfold terminator at h
    dsimp only at h
    split at h
    · exact Option.some.inj h ▸ hs.skipInLine.leaf _ _ _
    · split at h
      · exact Option.some.inj h ▸ hs.skipInLine.leaf _ _ _
      · cases h

instance keepsOrder_stringLiteral (part : Option Field) : KeepsOrder (stringLiteral part) where
  after h hs := by
    unfold stringLiteral at h
    split at h
    · exact Option.some.inj h ▸ hs.skip.leaf _ _ _
    · exact Option.some.inj h ▸ hs.skip.leaf _ _ _
    · cases h

instance keepsOrder_numberLiteral : KeepsOrder numberLiteral where
  after h hs := by
    unfold numberLiteral at h
    dsimp only at h
    repeat' split at h
    · exact Option.some.inj h ▸ hs.skip.leaf _ _ _
    · exact Option.some.inj h ▸ hs.skip.leaf _ _ _
    · exact Option.some.inj h ▸ hs.skip.leaf _ _ _
    · cases h

instance keepsOrder_runeLiteral : KeepsOrder runeLiteral where
  after h hs := by
    obtain ⟨length, _, rfl⟩ := Option.map_eq_some_iff.mp h
    exact hs.skip.leaf _ _ _

instance keepsOrder_when (condition : State → Bool) : KeepsOrder (when condition) where
  after h hs := by
    unfold when at h
    split at h
    · exact Option.some.inj h ▸ hs
    · cases h

/-- A phrase is orderly if what its body reads is arranged as its kind asks for. -/
theorem orderly_phrase [KeepsOrder parser] {kind : Kind} {part : Option Field} {s later : State}
    (h : phrase kind part parser s = some later) (hs : s.Orderly)
    (harranged : ∀ inner, parser { s.skip with finished := [] } = some inner →
      Arranged kind inner.finished.reverse) : later.Orderly := by
  unfold phrase at h
  dsimp only at h
  split at h
  · cases h
  · next inner hinner =>
      have hchildren := KeepsOrder.after hinner s.skip.orderly_level
      refine Option.some.inj h ▸ List.forall_mem_cons.mpr ⟨?_, hs.skip⟩
      refine State.orderly_nodeUpTo _ _ kind part (harranged inner hinner) ?_
      intro child hchild
      exact hchildren child (List.mem_reverse.mp hchild)

instance keepsOrder_phrase (kind : Kind) (part : Option Field) [hkind : Holds kind.isFree]
    [KeepsOrder parser] : KeepsOrder (phrase kind part parser) where
  after h hs := orderly_phrase h hs fun _ _ => arranged_of_isFree hkind.eq_true _

instance keepsOrder_playing (part : Field) [KeepsOrder parser] :
    KeepsOrder (playing part parser) where
  after h hs := by
    unfold playing at h
    split at h
    · cases h
    · next inner hinner =>
        have hfinished := KeepsOrder.after hinner hs
        split at h
        · next label children before hsplit =>
            rw [State.Orderly, hsplit, List.forall_mem_cons] at hfinished
            refine Option.some.inj h ▸ List.forall_mem_cons.mpr ⟨?_, hfinished.2⟩
            exact Node.orderly_playing _ hfinished.1
        · exact Option.some.inj h ▸ hfinished

instance keepsOrder_sequence_nil : KeepsOrder (sequence []) where
  after h hs := Option.some.inj h ▸ hs

instance keepsOrder_sequence_cons (others : List Parser) [KeepsOrder parser]
    [KeepsOrder (sequence others)] : KeepsOrder (sequence (parser :: others)) where
  after h hs := by
    obtain ⟨middle, hmiddle, hrest⟩ := Option.bind_eq_some_iff.mp h
    exact KeepsOrder.after hrest (KeepsOrder.after hmiddle hs)

instance keepsOrder_firstOf_nil : KeepsOrder (firstOf []) where
  after h := by cases h

instance keepsOrder_firstOf_cons (others : List Parser) [KeepsOrder parser]
    [KeepsOrder (firstOf others)] : KeepsOrder (firstOf (parser :: others)) where
  after h hs := by
    rcases Option.or_eq_some_iff.mp h with hfirst | ⟨_, hothers⟩
    · exact KeepsOrder.after hfirst hs
    · exact KeepsOrder.after hothers hs

instance keepsOrder_optional [KeepsOrder parser] : KeepsOrder (optional parser) where
  after {s later} h hs := by
    obtain rfl := Option.some.inj h
    cases hread : parser s with
    | none => exact hs
    | some later => exact KeepsOrder.after hread hs

theorem orderly_atMost [KeepsOrder parser] (count : Nat) {s : State} (hs : s.Orderly) :
    (atMost parser count s).Orderly := by
  induction count generalizing s with
  | zero => exact hs
  | succ count ih =>
      rw [atMost]
      split
      · exact hs
      · next later hlater =>
          split
          · exact hs
          · exact ih (KeepsOrder.after hlater hs)

instance keepsOrder_many [KeepsOrder parser] : KeepsOrder (many parser) where
  after h hs := Option.some.inj h ▸ orderly_atMost _ hs

instance keepsOrder_terminated [KeepsOrder parser] : KeepsOrder (terminated parser) := by
  unfold terminated
  infer_instance

instance keepsOrder_onLevel {body : State → Parser} [hbody : ∀ first, KeepsOrder (body first)] :
    KeepsOrder (onLevel body) where
  after {s later} h hs := by
    unfold onLevel at h
    dsimp only at h
    split at h
    · cases h
    · next inner hinner =>
        have hlevel := (hbody s.skip).after hinner s.skip.orderly_level
        refine Option.some.inj h ▸ ?_
        intro node hnode
        exact (List.mem_append.mp hnode).elim (hlevel node) (hs.skip node)

instance keepsOrder_unlessEnded (follow : Follow) [KeepsOrder parser] :
    KeepsOrder (follow.unlessEnded parser) where
  after h hs := by
    unfold Follow.unlessEnded at h
    split at h
    · cases h
    · exact KeepsOrder.after h hs

instance keepsOrder_choice (test : Prop) [Decidable test] (other : Parser) [KeepsOrder parser]
    [KeepsOrder other] : KeepsOrder (if test then parser else other) := by
  split <;> infer_instance

instance keepsOrder_enclose (first : State) (kind : Kind) (part : Option Field)
    [hkind : Holds kind.isFree] [KeepsOrder parser] :
    KeepsOrder fun s => (parser s).map (·.enclose first kind part) where
  after h hs := by
    obtain ⟨inner, hinner, rfl⟩ := Option.map_eq_some_iff.mp h
    exact (KeepsOrder.after hinner hs).enclose first hkind.eq_true part

instance keepsOrder_encloseAs (first : State) (kind : Kind) (part : Field)
    [hkind : Holds (kind.isFreeAfter part)] [KeepsOrder parser] :
    KeepsOrder fun s => (parser s).map (·.encloseAs first kind part) where
  after h hs := by
    obtain ⟨inner, hinner, rfl⟩ := Option.map_eq_some_iff.mp h
    exact (KeepsOrder.after hinner hs).encloseAs first hkind.eq_true

instance keepsOrder_commaList (follow : Follow) [KeepsOrder parser] :
    KeepsOrder (commaList follow parser) := by
  unfold commaList
  infer_instance

instance keepsOrder_bracketed (opening closing : String) [KeepsOrder parser] :
    KeepsOrder (bracketed opening closing parser) := by
  unfold bracketed
  infer_instance

instance keepsOrder_bracketedItems (opening closing : String) [KeepsOrder parser] :
    KeepsOrder (bracketedItems opening closing parser) := by
  unfold bracketedItems
  infer_instance

end Combinators

namespace Grammar

variable (self : Goal → Parser) [hself : ∀ goal, KeepsOrder (self goal)]

/-! ## Types -/

section Types

instance keepsOrder_typeUnion (kind : Kind) (part : Option Field) (follow : Follow)
    [Holds kind.isFree] : KeepsOrder (typeUnion self kind part follow) := by
  unfold typeUnion
  infer_instance

instance keepsOrder_typeName (follow : Follow) : KeepsOrder (typeName self follow) := by
  unfold typeName typeArguments plainTypeName qualifiedType
  infer_instance

instance keepsOrder_nameList : KeepsOrder nameList := by
  unfold nameList
  infer_instance

instance keepsOrder_parameterList (part : Field) : KeepsOrder (parameterList self part) := by
  unfold parameterList parameter
  infer_instance

instance keepsOrder_result (follow : Follow) : KeepsOrder (result self follow) := by
  unfold result
  infer_instance

instance keepsOrder_structType : KeepsOrder (structType self) := by
  unfold structType fieldDeclaration
  infer_instance

instance keepsOrder_interfaceType : KeepsOrder (interfaceType self) := by
  unfold interfaceType interfaceElement
  infer_instance

instance keepsOrder_parenthesizedType : KeepsOrder (parenthesizedType self) := by
  unfold parenthesizedType
  infer_instance

instance keepsOrder_simpleType (follow : Follow) : KeepsOrder (simpleType self follow) where
  after h hs := by
    unfold simpleType functionType mapType channelType pointerType sliceType arrayType
      negatedType at h
    split at h <;> exact KeepsOrder.after h hs

instance keepsOrder_type (follow : Follow) : KeepsOrder (type self follow) := by
  unfold type
  infer_instance

instance keepsOrder_typeParameterList : KeepsOrder (typeParameterList self) := by
  unfold typeParameterList
  infer_instance

end Types

/-! ## Expressions -/

section Expressions

instance keepsOrder_literalElement : KeepsOrder (literalElement self) := by
  unfold literalElement
  infer_instance

instance keepsOrder_literalEntry : KeepsOrder (literalEntry self) := by
  unfold literalEntry
  refine @keepsOrder_onLevel _ fun first => ⟨fun {s later} h hs => ?_⟩
  split at h
  · cases h
  · next element helement =>
      have hlevel := KeepsOrder.after helement hs
      split at h
      · exact Option.some.inj h ▸ hlevel
      · next keyed hkeyed =>
          exact Option.some.inj h ▸ (KeepsOrder.after hkeyed hlevel).enclose first rfl none

instance keepsOrder_literalValue : KeepsOrder (literalValue self) := by
  unfold literalValue
  infer_instance

instance keepsOrder_conversionOperand : KeepsOrder (conversionOperand self) := by
  unfold conversionOperand
  infer_instance

instance keepsOrder_argumentList : KeepsOrder (argumentList self) := by
  unfold argumentList
  refine @keepsOrder_phrase _ _ _ _ (@keepsOrder_bracketedItems _ _ _
    (@keepsOrder_onLevel _ fun first => ⟨fun {s later} h hs => ?_⟩))
  split at h
  · cases h
  · next argument hargument =>
      have hlevel := KeepsOrder.after hargument hs
      split at h
      · exact Option.some.inj h ▸ hlevel
      · next variadic hvariadic =>
          exact Option.some.inj h ▸ (KeepsOrder.after hvariadic hlevel).enclose first rfl none

instance keepsOrder_typedArgumentList : KeepsOrder (typedArgumentList self) := by
  unfold typedArgumentList
  infer_instance

theorem orderly_typeOfField {node : Node} (h : node.Orderly) : (typeOfField node).Orderly := by
  obtain ⟨label, children⟩ := node
  rw [typeOfField]
  split
  · exact Node.orderly_mk_iff.mpr ⟨trivial, (Node.orderly_mk_iff.mp h).2⟩
  · exact h

/-- The names of types that are read from expressions are of free kinds. -/
theorem orderly_typeOfName? {node named : Node} (h : node.Orderly)
    (hnamed : typeOfName? node = some named) : named.Orderly := by
  obtain ⟨label, children⟩ := node
  have hchildren := (Node.orderly_mk_iff.mp h).2
  unfold typeOfName? at hnamed
  dsimp only at hnamed
  split at hnamed
  · exact Option.some.inj hnamed ▸ Node.orderly_mk_iff.mpr ⟨trivial, hchildren⟩
  · next operand inner others _ =>
      split at hnamed
      · obtain ⟨hoperand, hothers⟩ := List.forall_mem_cons.mp hchildren
        refine Option.some.inj hnamed ▸ Node.orderly_mk_iff.mpr ⟨trivial, ?_⟩
        refine List.forall_mem_cons.mpr ⟨?_, ?_⟩
        · exact Node.orderly_mk_iff.mpr ⟨trivial, (Node.orderly_mk_iff.mp hoperand).2⟩
        · intro child hchild
          obtain ⟨other, hother, rfl⟩ := List.mem_map.mp hchild
          exact orderly_typeOfField (hothers other hother)
      · cases hnamed
  · cases hnamed

instance keepsOrder_asTypeName : KeepsOrder asTypeName where
  after {s later} h hs := by
    unfold asTypeName at h
    split at h
    · next node hnode =>
        obtain ⟨named, hnamed, rfl⟩ := Option.map_eq_some_iff.mp h
        refine List.forall_mem_singleton.mpr (orderly_typeOfName? (hs node ?_) hnamed)
        rw [hnode]
        exact List.mem_singleton_self node
    · cases h

instance keepsOrder_namedLiteral (follow : Follow) (first : State) (bare : Bool) :
    KeepsOrder (namedLiteral self follow first bare) where
  after h hs := by
    unfold namedLiteral at h
    split at h
    · cases h
    · split at h
      · cases h
      · next literal hliteral =>
          split at h
          · exact Option.some.inj h ▸ (KeepsOrder.after hliteral hs).enclose first rfl none
          · cases h

instance keepsOrder_expressionTypeArguments : KeepsOrder (expressionTypeArguments self) := by
  unfold expressionTypeArguments
  infer_instance

instance keepsOrder_asGenericType (first : State) : KeepsOrder (asGenericType first) where
  after {s later} h hs := by
    unfold asGenericType at h
    split at h
    · next arguments rest hfinished =>
        rw [State.Orderly, hfinished, List.forall_mem_cons] at hs
        obtain ⟨named, hnamed, rfl⟩ := Option.map_eq_some_iff.mp h
        have hrest : { s with finished := rest }.Orderly := hs.2
        exact ((KeepsOrder.after hnamed hrest).cons hs.1).enclose first rfl _
    · cases h

instance keepsOrder_afterTypeArguments (follow : Follow) (first : State) :
    KeepsOrder (afterTypeArguments self follow first) := by
  unfold afterTypeArguments
  infer_instance

instance keepsOrder_bracketStep (follow : Follow) (first : State) :
    KeepsOrder (bracketStep self follow first) := by
  unfold bracketStep indexOrSlice sliceBound
  infer_instance

instance keepsOrder_pointStep (follow : Follow) (first : State) :
    KeepsOrder (pointStep self follow first) := by
  unfold pointStep
  infer_instance

instance keepsOrder_braceStep (follow : Follow) (first : State) :
    KeepsOrder (braceStep self follow first) where
  after h hs := by
    unfold braceStep at h
    split at h
    · dsimp only at h
      split at h
      · cases h
      · exact KeepsOrder.after h hs
    · cases h

instance keepsOrder_operandStep (follow : Follow) (first : State) :
    KeepsOrder (operandStep self follow first) := by
  unfold operandStep
  infer_instance

instance keepsOrder_typedOperand : KeepsOrder (typedOperand self) := by
  unfold typedOperand
  refine @keepsOrder_onLevel _ fun first => ⟨fun {s later} h hs => ?_⟩
  split at h
  · cases h
  · next type htype =>
      have hlevel := KeepsOrder.after htype hs
      rcases ite_eq_iff.mp h with ⟨_, hliteral⟩ | ⟨_, hoperand⟩
      · exact (keepsOrder_enclose first _ _).after hliteral hlevel
      · exact (keepsOrder_enclose first _ _).after hoperand hlevel

instance keepsOrder_parenthesizedConversion (generic : Bool) :
    KeepsOrder (parenthesizedConversion self generic) := by
  unfold parenthesizedConversion
  refine @keepsOrder_onLevel _ fun first => ⟨fun {s later} h hs => ?_⟩
  split at h
  · cases h
  · next type htype =>
      split at h
      · obtain ⟨operand, hoperand, rfl⟩ := Option.map_eq_some_iff.mp h
        exact (KeepsOrder.after hoperand (KeepsOrder.after htype hs)).enclose first rfl none
      · cases h

instance keepsOrder_parenthesized : KeepsOrder (parenthesized self) := by
  unfold parenthesized
  infer_instance

instance keepsOrder_functionOperand : KeepsOrder (functionOperand self) := by
  unfold functionOperand
  infer_instance

/-- What a call of the level calls is a plain word. -/
def CallsWord (s : State) : Prop :=
  ∀ node ∈ s.finished, node.label.field = some .function → node.kind = .identifier

theorem CallsWord.skip {s : State} (h : CallsWord s) : CallsWord s.skip :=
  State.forall_mem_skipFrom h (fun _ _ hfield => nomatch hfield) _ _ _

theorem callsWord_word {s later : State} (hs : CallsWord s)
    (h : playing .function (name .identifier none []) s = some later) : CallsWord later := by
  unfold playing name at h
  split at h
  · cases h
  · next read hread =>
      split at hread
      · cases hread
      · obtain rfl := Option.some.inj hread
        obtain rfl := Option.some.inj h
        exact List.forall_mem_cons.mpr ⟨fun _ => rfl, hs.skip⟩

theorem callsWord_phrase {s later : State} {kind : Kind} {part : Field} {parser : Parser}
    (hpart : part ≠ .function) (hs : CallsWord s)
    (h : phrase kind (some part) parser s = some later) : CallsWord later := by
  unfold phrase at h
  dsimp only at h
  split at h
  · cases h
  · obtain rfl := Option.some.inj h
    refine List.forall_mem_cons.mpr ⟨?_, hs.skip⟩
    intro hfield
    exact absurd (Option.some.inj hfield) hpart

instance keepsOrder_allocation (follow : Follow) : KeepsOrder (allocation self follow) where
  after {s later} h hs := by
    unfold allocation at h
    dsimp only at h
    split at h
    · cases h
    · next word hword =>
        split at h
        · refine orderly_phrase h hs fun inner hinner => Or.inr ?_
          obtain ⟨called, hcalled, hrest⟩ := Option.bind_eq_some_iff.mp hinner
          obtain ⟨given, hgiven, hend⟩ := Option.bind_eq_some_iff.mp hrest
          have hword : CallsWord called := callsWord_word (by simp [CallsWord]) hcalled
          have hwords : CallsWord given := callsWord_phrase (by decide) hword hgiven
          intro child hchild
          obtain rfl := Option.some.inj hend
          exact hwords child (List.mem_reverse.mp hchild)
        · exact Option.some.inj h ▸ KeepsOrder.after hword hs

instance keepsOrder_operandStart (follow : Follow) : KeepsOrder (operandStart self follow) where
  after h hs := by
    unfold operandStart at h
    split at h
    · exact KeepsOrder.after h hs
    · exact KeepsOrder.after h hs
    · exact KeepsOrder.after h hs
    · exact KeepsOrder.after h hs
    · exact KeepsOrder.after h hs
    · split at h
      · exact KeepsOrder.after h hs
      · split at h
        · exact KeepsOrder.after h hs
        · exact KeepsOrder.after h hs
    · exact KeepsOrder.after h hs

instance keepsOrder_operand (follow : Follow) : KeepsOrder (operand self follow) := by
  unfold operand
  refine @keepsOrder_onLevel _ fun first => ⟨fun {s later} h hs => ?_⟩
  split at h
  · cases h
  · next start hstart => exact KeepsOrder.after h (KeepsOrder.after hstart hs)

instance keepsOrder_unary (follow : Follow) : KeepsOrder (unary self follow) where
  after h hs := by
    unfold unary at h
    split at h
    · exact KeepsOrder.after h hs
    · exact KeepsOrder.after h hs

instance keepsOrder_operatorStep (follow : Follow) (least : Nat) (first : State) :
    KeepsOrder (operatorStep self follow least first) where
  after h hs := by
    unfold operatorStep at h
    split at h
    · cases h
    · split at h
      · cases h
      · obtain ⟨right, hright, rfl⟩ := Option.map_eq_some_iff.mp h
        exact (KeepsOrder.after hright hs).encloseAs first rfl

instance keepsOrder_expression (follow : Follow) (least : Nat) :
    KeepsOrder (expression self follow least) := by
  unfold expression
  refine @keepsOrder_onLevel _ fun first => ⟨fun {s later} h hs => ?_⟩
  split at h
  · cases h
  · next left hleft => exact KeepsOrder.after h (KeepsOrder.after hleft hs)

end Expressions

/-! ## Statements -/

section Statements

instance keepsOrder_expressionList (part : Option Field) (follow : Follow) :
    KeepsOrder (expressionList self part follow) := by
  unfold expressionList
  infer_instance

theorem orderly_asLeftSide {s : State} (h : s.Orderly) (first : State) :
    (asLeftSide first s).Orderly := h.enclose first rfl _

instance keepsOrder_simpleFrom (follow right : Follow) (first : State) :
    KeepsOrder (simpleFrom self follow right first) where
  after {s later} h hs := by
    have hleft := orderly_asLeftSide hs first
    unfold simpleFrom at h
    dsimp only at h
    split at h
    · split at h
      · exact Option.some.inj h ▸ hs.enclose first rfl none
      · cases h
    · split at h
      · obtain ⟨values, hvalues, rfl⟩ := Option.map_eq_some_iff.mp h
        exact (KeepsOrder.after hvalues hleft).enclose first rfl none
      · split at h
        · split at h
          · split at h
            · exact Option.some.inj h ▸ hs.enclose first rfl none
            · cases h
          · obtain ⟨values, hvalues, rfl⟩ := Option.map_eq_some_iff.mp h
            exact (KeepsOrder.after hvalues hleft).enclose first rfl none
        · split at h
          · cases h
          · split at h
            · exact (keepsOrder_enclose first _ _).after h hs
            · split at h
              · exact (keepsOrder_enclose first _ _).after h hs
              · split at h
                · exact (keepsOrder_encloseAs first _ _).after h hs
                · exact Option.some.inj h ▸ hs.enclose first rfl none

instance keepsOrder_simpleStatement (part : Option Field) (follow right : Follow) :
    KeepsOrder (simpleStatement self part follow right) where
  after {s later} h hs := by
    obtain ⟨read, hread, rfl⟩ := Option.map_eq_some_iff.mp h
    have hlevel : read.Orderly := by
      refine (@keepsOrder_onLevel _ fun first => ⟨fun {s later} h hs => ?_⟩).after hread hs
      split at h
      · cases h
      · next left hleft => exact KeepsOrder.after h (KeepsOrder.after hleft hs)
    split
    · next label children before hsplit =>
        rw [State.Orderly, hsplit, List.forall_mem_cons] at hlevel
        exact List.forall_mem_cons.mpr ⟨Node.orderly_playing _ hlevel.1, hlevel.2⟩
    · exact hlevel

instance keepsOrder_constDeclaration (follow : Follow) :
    KeepsOrder (constDeclaration self follow) := by
  unfold constDeclaration declaration constSpec declaredNames
  infer_instance

instance keepsOrder_varDeclaration (follow : Follow) : KeepsOrder (varDeclaration self follow) := by
  unfold varDeclaration declaration varSpec declaredNames
  infer_instance

instance keepsOrder_typeDeclaration (follow : Follow) :
    KeepsOrder (typeDeclaration self follow) := by
  unfold typeDeclaration declaration typeSpec
  infer_instance

instance keepsOrder_statementList (clause : Bool) : KeepsOrder (statementList self clause) := by
  unfold statementList
  infer_instance

instance keepsOrder_block : KeepsOrder (block self) := by
  unfold block
  infer_instance

instance keepsOrder_headed (header : Brace → Parser) (body : Parser)
    [hheader : ∀ brace, KeepsOrder (header brace)] [KeepsOrder body] :
    KeepsOrder (headed header body) where
  after h hs := by
    unfold headed at h
    split at h
    · obtain ⟨either, heither, hbody⟩ := Option.bind_eq_some_iff.mp h
      exact KeepsOrder.after hbody ((hheader .either).after heither hs)
    · next plain hplain =>
        split at h
        · next read hbody =>
            exact Option.some.inj h ▸
              KeepsOrder.after hbody ((hheader .body).after hplain hs)
        · split at h
          · cases h
          · next either heither =>
              split at h
              · cases h
              · exact KeepsOrder.after h ((hheader .either).after heither hs)

instance keepsOrder_headerExpression (part : Field) (brace : Brace) :
    KeepsOrder (headerExpression self part brace) := by
  unfold headerExpression
  infer_instance

instance keepsOrder_initialized (brace : Brace) (rest : Parser) [KeepsOrder rest] :
    KeepsOrder (initialized self brace rest) := by
  unfold initialized headerInitializer
  infer_instance

instance keepsOrder_ifStatement (follow : Follow) : KeepsOrder (ifStatement self follow) := by
  unfold ifStatement
  infer_instance

instance keepsOrder_forStatement (follow : Follow) : KeepsOrder (forStatement self follow) := by
  unfold forStatement rangeClause forClause
  infer_instance

instance keepsOrder_clauses (clause : Parser) [KeepsOrder clause] :
    KeepsOrder (clauses self clause) := by
  unfold clauses defaultCase
  infer_instance

instance keepsOrder_typeSwitch : KeepsOrder (typeSwitch self) := by
  unfold typeSwitch typeGuard typeCase
  infer_instance

instance keepsOrder_expressionSwitch (follow : Follow) :
    KeepsOrder (expressionSwitch self follow) := by
  unfold expressionSwitch expressionCase
  infer_instance

instance keepsOrder_communication : KeepsOrder (communication self) := by
  unfold communication
  refine @keepsOrder_onLevel _ fun first => ⟨fun {s later} h hs => ?_⟩
  split at h
  · cases h
  · next left hleft =>
      have hlevel := KeepsOrder.after hleft hs
      split at h
      · obtain ⟨values, hvalues, rfl⟩ := Option.map_eq_some_iff.mp h
        exact (KeepsOrder.after hvalues (orderly_asLeftSide hlevel first)).enclose first rfl _
      · split at h
        · exact (keepsOrder_encloseAs first _ _).after h hlevel
        · split at h
          · exact Option.some.inj h ▸ hlevel.enclose first rfl _
          · cases h

instance keepsOrder_selectStatement : KeepsOrder (selectStatement self) := by
  unfold selectStatement communicationCase
  infer_instance

instance keepsOrder_jump (kind : Kind) (word : String) (follow : Follow) (target : Parser)
    [Holds kind.isFree] [KeepsOrder target] : KeepsOrder (jump kind word follow target) := by
  unfold jump
  infer_instance

instance keepsOrder_labeledStatement (follow : Follow) :
    KeepsOrder (labeledStatement self follow) := by
  unfold labeledStatement
  infer_instance

instance keepsOrder_statement (follow : Follow) : KeepsOrder (statement self follow) where
  after h hs := by
    unfold statement at h
    repeat' split at h
    all_goals exact KeepsOrder.after h hs

end Statements

/-! ## Sources -/

section Sources

instance keepsOrder_importDeclaration : KeepsOrder importDeclaration := by
  unfold importDeclaration importSpec
  infer_instance

instance keepsOrder_functionDeclaration : KeepsOrder (functionDeclaration self) := by
  unfold functionDeclaration functionTail
  infer_instance

instance keepsOrder_methodDeclaration : KeepsOrder (methodDeclaration self) := by
  unfold methodDeclaration functionTail
  infer_instance

instance keepsOrder_item : KeepsOrder (item self) where
  after h hs := by
    unfold item packageClause at h
    split at h <;> exact KeepsOrder.after h hs

/-- A whole source is orderly if the phrases in it are. -/
theorem orderly_sourceFile {start : State} {root : Node} (hstart : start.Orderly)
    (h : sourceFile self start = some root) : root.Orderly := by
  unfold sourceFile at h
  dsimp only at h
  split at h
  · have hitems : (atMost (sequence [item self, terminator]) (start.rest.length + 1) start).Orderly :=
      orderly_atMost _ hstart
    refine Option.some.inj h ▸ State.orderly_nodeUpTo _ _ _ _ trivial ?_
    intro child hchild
    exact hitems.skip child (List.mem_reverse.mp hchild)
  · cases h

end Sources

end Grammar

open Grammar

theorem keepsOrder_goalStep (self : Goal → Parser) [∀ goal, KeepsOrder (self goal)] (goal : Goal) :
    KeepsOrder (goalStep self goal) := by
  cases goal <;> unfold goalStep <;> infer_instance

/-- Phrases of every depth are orderly. -/
theorem keepsOrder_parseGoal (depth : Nat) (goal : Goal) : KeepsOrder (parseGoal depth goal) := by
  induction depth generalizing goal with
  | zero => exact ⟨fun h => nomatch h⟩
  | succ depth ih => exact keepsOrder_goalStep (parseGoal depth) goal

/-- **The trees of sources** are orderly, and no two of their nodes have one number. -/
theorem parse?_orderly {text : String} {root : Node} (h : parse? text = some root) :
    root.Orderly ∧ (root.preorder.map Node.id).Nodup := by
  obtain ⟨read, hread, rfl⟩ := Option.map_eq_some_iff.mp h
  have hstart : (State.start text).Orderly := by
    unfold State.start
    split <;> simp [State.Orderly]
  have hgoals := keepsOrder_parseGoal (8 * (State.start text).rest.length + 32)
  exact ⟨Node.orderly_number (orderly_sourceFile _ hstart hread), Node.nodup_ids_number read⟩

end WorkflowGraph.Go
