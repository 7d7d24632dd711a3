import WorkflowGraph.Proofs.OrderlyTrees
import WorkflowGraph.Proofs.WorkflowCalls

/-!
# What comes after a call

In the order of a tree the nodes below a node follow it.  So what comes next after a call is what it
calls, and if that is a name selected on another call, what comes next is this other call: between the
two stand only the selector, a pair of parentheses, and the comments in it.  `Go.Node.next_call` says so
of the calls of an orderly tree.
-/

namespace WorkflowGraph

namespace Go.Node

mutual

/-- Wherever a node stands in the order of a tree, its own tree follows. -/
theorem preorder_follows {node : Node} {front more : List Node} :
    ∀ root : Node, root.preorder = front ++ node :: more → node.preorder <+: node :: more
  | mk label children, h => by
      rw [preorder] at h
      rcases List.cons_eq_append_iff.mp h with ⟨_, hroot⟩ | ⟨others, _, hbelow⟩
      · obtain ⟨rfl, rfl⟩ := List.cons.inj hroot
        exact ⟨[], by rw [preorder, List.append_nil]⟩
      · exact preorder_follows_row children hbelow

theorem preorder_follows_row {node : Node} {front more : List Node} :
    ∀ nodes : List Node, preorderAll nodes = front ++ node :: more →
      node.preorder <+: node :: more
  | [], h => by simp [preorderAll] at h
  | first :: rest, h => by
      rw [preorderAll] at h
      rcases List.append_eq_append_iff.mp h with ⟨between, hfront, hrest⟩ | ⟨between, hfirst, hmore⟩
      · exact preorder_follows_row rest hrest
      · cases between with
        | nil =>
            have hstart : preorderAll rest = [] ++ node :: more := hmore.symm
            exact preorder_follows_row rest hstart
        | cons start others =>
            obtain ⟨rfl, rfl⟩ := List.cons.inj hmore
            exact (preorder_follows first hfirst).trans (List.prefix_append (node :: others) _)

end

/-- The tree of a part is a stretch of the tree. -/
theorem preorder_within {root node : Node} (h : node ∈ root.preorder) :
    node.preorder <:+: root.preorder := by
  obtain ⟨front, more, hsplit⟩ := List.append_of_mem h
  obtain ⟨after, hafter⟩ := preorder_follows root hsplit
  exact ⟨front, after, by rw [hsplit, ← hafter, List.append_assoc]⟩

/-- The tree of `inner` stands in that of `outer`, and no call comes before it. -/
def Leads (outer inner : Node) : Prop :=
  ∃ passed others, outer.preorder = passed ++ inner.preorder ++ others ∧
    ∀ node ∈ passed, node.kind ≠ .callExpression

theorem Leads.trans {outer middle inner : Node} (h : Leads outer middle) (h' : Leads middle inner) :
    Leads outer inner := by
  obtain ⟨passed, others, houter, hpassed⟩ := h
  obtain ⟨passed', others', hmiddle, hpassed'⟩ := h'
  refine ⟨passed ++ passed', others' ++ others, by rw [houter, hmiddle]; simp, ?_⟩
  intro node hnode
  exact (List.mem_append.mp hnode).elim (hpassed node) (hpassed' node)

/-- What plays the part that leads the children is the first of them. -/
theorem children_eq_cons {node child : Node} {part : Field} (hled : LedBy part node.children)
    (hchild : node.field? part = some child) : ∃ others, node.children = child :: others := by
  unfold field? at hchild
  cases hchildren : node.children with
  | nil => simp [hchildren] at hchild
  | cons first others =>
      have hfirst : first.label.field = some part := hled first (by simp [hchildren])
      rw [hchildren, List.find?_cons_of_pos (by simp [hfirst])] at hchild
      exact ⟨others, by rw [Option.some.inj hchild]⟩

theorem preorder_eq (node : Node) : node.preorder = node :: preorderAll node.children := by
  cases node
  rw [preorder, children]

theorem preorderAll_append (nodes others : List Node) :
    preorderAll (nodes ++ others) = preorderAll nodes ++ preorderAll others := by
  induction nodes with
  | nil => rfl
  | cons first rest ih => rw [List.cons_append, preorderAll, ih, preorderAll, List.append_assoc]

/-- A selector is led by what it selects from. -/
theorem leads_operand {node operand : Node} (h : node.Orderly)
    (hkind : node.kind = .selectorExpression) (hoperand : node.field? .operand = some operand) :
    Leads node operand := by
  have harranged := h node (self_mem_preorder node)
  rw [hkind] at harranged
  obtain ⟨others, hchildren⟩ := children_eq_cons harranged hoperand
  refine ⟨[node], preorderAll others, ?_, by simp [hkind]⟩
  rw [preorder_eq, hchildren, preorderAll]
  rfl

/-- Punctuation and comments hold no calls. -/
theorem kind_ne_of_not_isPhrase {node part : Node} (h : node.Orderly)
    (hphrase : node.isPhrase = false) (hpart : part ∈ node.preorder) :
    part.kind ≠ .callExpression := by
  have harranged := h node (self_mem_preorder node)
  have hkinds : node.kind = .token ∨ node.kind = .comment := by
    by_cases htoken : node.kind = .token
    · exact Or.inl htoken
    · exact Or.inr (by simpa [isPhrase, htoken] using hphrase)
  have hleaf : node.children = [] := by
    rcases hkinds with hkind | hkind
    · rw [hkind] at harranged
      exact harranged
    · rw [hkind] at harranged
      exact harranged
  rw [preorder_eq, hleaf] at hpart
  obtain rfl := List.mem_singleton.mp hpart
  rcases hkinds with hkind | hkind <;> simp [hkind]

/-- A pair of parentheses is led by the phrase in it. -/
theorem leads_phrase {node inner : Node} (h : node.Orderly)
    (hkind : node.kind = .parenthesizedExpression) (hinner : node.phrases.head? = some inner) :
    Leads node inner := by
  obtain ⟨phrases, hphrases⟩ := List.head?_eq_some_iff.mp hinner
  obtain ⟨skipped, others, hchildren, hskipped, _, _⟩ := List.filter_eq_cons_iff.mp hphrases
  refine ⟨node :: preorderAll skipped, preorderAll others, ?_, ?_⟩
  · rw [preorder_eq, hchildren, preorderAll_append, preorderAll]
    simp
  · refine List.forall_mem_cons.mpr ⟨by simp [hkind], ?_⟩
    intro part hpart
    obtain ⟨mark, hmark, hmem⟩ := mem_preorderAll_iff.mp hpart
    have hchild : mark ∈ node.children := by simp [hchildren, hmark]
    exact kind_ne_of_not_isPhrase (h.part (mem_preorder_of_mem_children hchild))
      (by simpa using hskipped mark hmark) hmem

end Go.Node

/-- Only a selector spells a name on an operand. -/
theorem Spells.of_operand {node name inner : Go.Node} {operand : Option Go.Node}
    (h : Spells node operand name) (hoperand : operand = some inner) :
    node.kind = .selectorExpression ∧ node.field? .operand = some inner := by
  cases h with
  | bare hkind => cases hoperand
  | selected hkind hname => exact ⟨hkind, hoperand⟩

theorem Spells.leads {node name inner : Go.Node} (h : Spells node (some inner) name)
    (horderly : node.Orderly) : node.Leads inner := by
  obtain ⟨hkind, hoperand⟩ := h.of_operand rfl
  exact Go.Node.leads_operand horderly hkind hoperand

/-- What is called on an operand is led by the operand, and the call by it. -/
theorem Calls.preorder_eq {call name inner : Go.Node} (h : Calls call (some inner) name)
    (hkind : call.kind = .callExpression) (horderly : call.Orderly) :
    ∃ passed others, call.preorder = call :: (passed ++ inner.preorder ++ others) ∧
      ∀ node ∈ passed, node.kind ≠ .callExpression := by
  have harranged := horderly call (Go.Node.self_mem_preorder call)
  rw [hkind] at harranged
  obtain ⟨function, hfunction, hword, hleads⟩ : ∃ function, call.field? .function = some function ∧
      function.kind ≠ .identifier ∧ (function.Orderly → function.Leads inner) := by
    cases h with
    | direct hfunction hspells =>
        have hselector := (hspells.of_operand rfl).1
        exact ⟨_, hfunction, by simp [hselector], hspells.leads⟩
    | parenthesized hfunction hparenthesized hinner hspells =>
        refine ⟨_, hfunction, by simp [hparenthesized], ?_⟩
        intro hpart
        have hwithin := hpart.part (Go.Node.mem_preorder_of_mem_phrases (List.mem_of_head? hinner))
        exact (Go.Node.leads_phrase hpart hparenthesized hinner).trans (hspells.leads hwithin)
  rcases harranged with hled | hwords
  · obtain ⟨others, hchildren⟩ := Go.Node.children_eq_cons hled hfunction
    obtain ⟨passed, rest, hpreorder, hpassed⟩ :=
      hleads (horderly.part (Go.Node.mem_preorder_of_field? hfunction))
    refine ⟨passed, rest ++ Go.Node.preorderAll others, ?_, hpassed⟩
    rw [Go.Node.preorder_eq, hchildren, Go.Node.preorderAll, hpreorder]
    simp
  · have hfield := List.find?_some hfunction
    exact absurd (hwords function (List.mem_of_find?_eq_some hfunction) (by simpa using hfield)) hword

/-- The call that another is selected on is the next one in the order of the calls. -/
theorem Go.Node.next_call {root call inner name : Go.Node} {front more : List Go.Node}
    (horderly : root.Orderly)
    (hsplit : (root.preorder.filter fun node => node.kind = .callExpression) =
      front ++ call :: more)
    (hcalls : Calls call (some inner) name) (hinner : inner.kind = .callExpression) :
    ∃ later, more = inner :: later := by
  obtain ⟨before, rest, hpreorder, _, hrest⟩ := List.filter_eq_append_iff.mp hsplit
  obtain ⟨between, after, rfl, _, hcall, rfl⟩ := List.filter_eq_cons_iff.mp hrest
  have hkind : call.kind = .callExpression := of_decide_eq_true hcall
  have hmem : call ∈ root.preorder := by simp [hpreorder]
  have hplace : root.preorder = (before ++ between) ++ call :: after := by simp [hpreorder]
  obtain ⟨beyond, hfollows⟩ := preorder_follows root hplace
  obtain ⟨passed, others, hown, hpassed⟩ := hcalls.preorder_eq hkind (horderly.part hmem)
  rw [hown, List.cons_append] at hfollows
  have hnone : (passed.filter fun node => node.kind = .callExpression) = [] := by
    simpa using hpassed
  rw [← (List.cons.inj hfollows).2, preorder_eq inner]
  simp only [List.filter_append, List.filter_cons, hinner, hnone, decide_true, if_true,
    List.nil_append, List.cons_append]
  exact ⟨_, rfl⟩

end WorkflowGraph
