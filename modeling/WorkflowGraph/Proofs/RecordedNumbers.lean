import Mathlib.Tactic.SplitIfs
import WorkflowGraph.Declaration.Walk
import WorkflowGraph.Proofs.Extraction
import WorkflowGraph.Proofs.GraphNumbers
import WorkflowGraph.Proofs.ShortestDecimal

/-!
# The numbers that are read from sources

Apart from counts, three numbers of a source get into a body: the coefficient and the attempts of a
retry policy, and the two ends of a version.  The integers are checked to have 64 bits.  The
coefficients are rounded from decimals, and each of these decimals is spelled by a number literal of
the function (`Go.Node.SpellsNumber`).  Extraction keeps this from call to call, and the walk from
declaration to declaration (`walk_ensures_spelledIn`).
-/

namespace WorkflowGraph

open Number (Binary64)

/-! ## Literals -/

/-- What is read as an integer of 64 bits has been checked to be one. -/
theorem Number.fitsSigned_of_int64? {text : List Char} {n : Int} (h : int64? text = some n) :
    fitsSigned n = true := by
  unfold int64? at h
  split at h
  · split at h
    · next hfits =>
        obtain rfl := Option.some.inj h
        exact hfits
    · cases h
  · cases h

/-- Rounding ends in canonical form or at infinity. -/
theorem Number.Binary64.isValid_ofDecimal (negative : Bool) (number : Nat) (power : Int) :
    (ofDecimal negative number power).IsValid := by
  cases hround : ofDecimal negative number power with
  | finite sign mantissa exponent => exact isCanonical_of_ofDecimal hround
  | infinite sign => trivial

namespace Go.Node

/-- The decimals that the number literals below a node spell, each as a number and a power of
ten. -/
def decimals (node : Node) : List (Nat × Int) :=
  node.preorder.filterMap fun literal =>
    (numberLiteral? literal).bind fun text => Binary64.decimal? (Binary64.splitSign text).2

/-- The number is rounded from a decimal of the node. -/
def SpellsNumber (node : Node) (x : Binary64) : Prop :=
  ∃ decimal ∈ node.decimals, ∃ negative, x = .ofDecimal negative decimal.1 decimal.2

/-- What is spelled below a node is spelled below every node above it. -/
theorem SpellsNumber.mono {inner outer : Node} {x : Binary64} (h : inner.SpellsNumber x)
    (hmem : inner ∈ outer.preorder) : outer.SpellsNumber x := by
  obtain ⟨decimal, hdecimal, hround⟩ := h
  obtain ⟨literal, hliteral, hspells⟩ := List.mem_filterMap.mp hdecimal
  exact ⟨decimal, List.mem_filterMap.mpr ⟨literal, mem_preorder_trans hliteral outer hmem, hspells⟩,
    hround⟩

/-- What is spelled is rounded, and so it is in its form. -/
theorem SpellsNumber.isValid {node : Node} {x : Binary64} (h : node.SpellsNumber x) :
    x.IsValid := by
  obtain ⟨decimal, _, negative, rfl⟩ := h
  exact Binary64.isValid_ofDecimal negative decimal.1 decimal.2

/-- A literal spells what it is read as. -/
theorem spellsNumber_of_numberLiteral? {node literal : Node} {x : Binary64}
    (hliteral : literal ∈ node.preorder)
    (hread : (numberLiteral? literal).bind Binary64.ofText? = some x) : node.SpellsNumber x := by
  obtain ⟨text, htext, hx⟩ := Option.bind_eq_some_iff.mp hread
  obtain ⟨decimal, hdecimal, rfl⟩ := Option.map_eq_some_iff.mp hx
  refine ⟨decimal, List.mem_filterMap.mpr ⟨literal, hliteral, ?_⟩, _, rfl⟩
  rw [htext]
  exact hdecimal

end Go.Node

namespace Numbers

/-- The integers have 64 bits, and the floating-point numbers meet the condition; counts are left
aside. -/
def Proper (float : Binary64 → Prop) (numbers : Numbers) : Prop :=
  numbers.All (fun _ => True) (Number.fitsSigned · = true) float

variable {float other : Binary64 → Prop} {numbers : Numbers}

/-- Counts alone meet every condition on floating-point numbers. -/
theorem proper_counts (float : Binary64 → Prop) (counts : List Nat) :
    ({ counts } : Numbers).Proper float where
  counts _ _ := trivial
  integers := nofun
  floats := nofun

/-- A weaker condition on the floating-point numbers is met as well. -/
theorem Proper.imp (h : numbers.Proper float) (himp : ∀ x, float x → other x) :
    numbers.Proper other :=
  ⟨h.counts, h.integers, fun x hx => himp x (h.floats x hx)⟩

/-- Numbers that are spelled below a node are spelled below every node above it. -/
theorem Proper.below {inner outer : Go.Node} (h : numbers.Proper inner.SpellsNumber)
    (hmem : inner ∈ outer.preorder) : numbers.Proper outer.SpellsNumber :=
  h.imp fun _ hx => hx.mono hmem

end Numbers

open Numbers (all_append all_ofAll proper_counts)

/-! ## Options -/

namespace RetryPolicy

variable {node : Go.Node}

/-- The numbers of a policy are its attempts and its coefficient. -/
theorem proper_iff {policy : RetryPolicy} {float : Binary64 → Prop} :
    policy.numbers.Proper float ↔
      (∀ n, policy.maximumAttempts = some n → Number.fitsSigned n = true) ∧
        ∀ x, policy.backoffCoefficient = some x → float x := by
  constructor
  · intro h
    exact ⟨fun n hn => h.integers n (Option.mem_toList.mpr hn),
      fun x hx => h.floats x (Option.mem_toList.mpr hx)⟩
  · intro h
    exact ⟨fun _ _ => trivial, fun n hn => h.1 n (Option.mem_toList.mp hn),
      fun x hx => h.2 x (Option.mem_toList.mp hx)⟩

/-- Of the fields of a policy only the coefficient and the attempts are numbers, and both are read
from the value of the field. -/
theorem proper_set {policy : RetryPolicy} (h : policy.numbers.Proper node.SpellsNumber)
    (key : String) {value : Go.Node} (hvalue : value ∈ node.preorder) :
    (policy.set key value).numbers.Proper node.SpellsNumber := by
  obtain ⟨hattempts, hcoefficient⟩ := proper_iff.mp h
  rw [proper_iff]
  unfold set
  split_ifs
  · exact ⟨hattempts, hcoefficient⟩
  · exact ⟨hattempts, hcoefficient⟩
  · exact ⟨hattempts, fun x hx => Go.Node.spellsNumber_of_numberLiteral? hvalue hx⟩
  · refine ⟨fun n hn => ?_, hcoefficient⟩
    obtain ⟨text, _, htext⟩ := Option.bind_eq_some_iff.mp hn
    exact Number.fitsSigned_of_int64? htext
  · exact ⟨hattempts, hcoefficient⟩

/-- A policy is read field by field from a composite literal, beginning with no numbers at all. -/
theorem proper_ofNode (value : Go.Node) : (ofNode value).numbers.Proper value.SpellsNumber := by
  have hempty : ({} : RetryPolicy).numbers.Proper value.SpellsNumber :=
    proper_iff.mpr ⟨nofun, nofun⟩
  unfold ofNode
  split
  · exact hempty
  · next composite hcomposite =>
      refine List.foldlRecOn
        (motive := fun policy : RetryPolicy => policy.numbers.Proper value.SpellsNumber) _ _ hempty
        fun policy hpolicy element helement => proper_set hpolicy _ ?_
      exact Go.Node.mem_preorder_trans (Go.Node.mem_preorder_of_mem_keyedElements helement) value
        (Go.Node.mem_preorder_of_composite? value hcomposite)

end RetryPolicy

namespace CallOptions

variable {node : Go.Node}

/-- The numbers of options are those of their policy. -/
theorem proper_iff {options : CallOptions} {float : Binary64 → Prop} :
    options.numbers.Proper float ↔
      ∀ policy, options.retryPolicy = some policy → policy.numbers.Proper float := by
  unfold numbers Numbers.Proper
  rw [all_ofAll]
  simp only [Option.mem_toList]

/-- Only the retry policy holds numbers. -/
theorem retryPolicy_set {key : String} (hkey : key ≠ "RetryPolicy") (options : CallOptions)
    (value : Go.Node) : (options.set key value).retryPolicy = options.retryPolicy := by
  unfold set
  split_ifs <;> rfl

/-- A field is the policy, which is read from its value, or leaves the policy as it is. -/
theorem proper_set {options : CallOptions} (h : options.numbers.Proper node.SpellsNumber)
    (key : String) {value : Go.Node} (hvalue : value ∈ node.preorder) :
    (options.set key value).numbers.Proper node.SpellsNumber := by
  rw [proper_iff] at h ⊢
  by_cases hkey : key = "RetryPolicy"
  · subst hkey
    intro policy hpolicy
    obtain rfl := Option.some.inj hpolicy
    exact (RetryPolicy.proper_ofNode value).below hvalue
  · rw [retryPolicy_set hkey]
    exact h

/-- Options are read from a composite literal as policies are; without one they hold nothing. -/
theorem proper_ofNode {options : Option Go.Node}
    (h : ∀ value, options = some value → value ∈ node.preorder) :
    (ofNode options).numbers.Proper node.SpellsNumber := by
  have hempty : ({} : CallOptions).numbers.Proper node.SpellsNumber := proper_iff.mpr nofun
  unfold ofNode
  split
  · exact hempty
  · next composite hcomposite =>
      obtain ⟨value, hvalue, hcomposite⟩ := Option.bind_eq_some_iff.mp hcomposite
      have hbelow := Go.Node.mem_preorder_trans
        (Go.Node.mem_preorder_of_composite? value hcomposite) node (h value hvalue)
      refine List.foldlRecOn
        (motive := fun options : CallOptions => options.numbers.Proper node.SpellsNumber) _ _ hempty
        fun options hoptions element helement => proper_set hoptions _ ?_
      exact Go.Node.mem_preorder_trans (Go.Node.mem_preorder_of_mem_keyedElements helement) node
        hbelow

end CallOptions

/-! ## Bodies -/

namespace Body

variable {imports : SdkImports} {node : Go.Node}

/-- Options that are attached to a context are spelled in the call that attaches them. -/
theorem proper_contextOptions? {context : Go.Node} {options : CallOptions}
    (h : contextOptions? imports context = some options) :
    options.numbers.Proper context.SpellsNumber := by
  unfold contextOptions? at h
  split_ifs at h
  split at h
  · cases h
  · split_ifs at h
    obtain rfl := Option.some.inj h
    refine CallOptions.proper_ofNode fun value hvalue => ?_
    exact Go.Node.mem_preorder_of_mem_arguments (List.mem_of_getElem? hvalue)

/-- A site has its options from the context, which is the first argument of the call. -/
theorem proper_callSite? {role : CallRole} {call : Go.Node} {resultType : Option String}
    {site : CallSite} (h : callSite? imports role call resultType = some site) :
    site.numbers.Proper call.SpellsNumber := by
  unfold callSite? at h
  split at h
  · next context target payload harguments =>
      obtain rfl := Option.some.inj h
      have hcontext : context ∈ call.preorder :=
        Go.Node.mem_preorder_of_mem_arguments (by simp [harguments])
      refine all_append.mpr ⟨proper_counts _ _, all_ofAll.mpr fun options hoptions => ?_⟩
      exact (proper_contextOptions? (Option.mem_toList.mp hoptions)).below hcontext
  · cases h

/-- The end of a version is a literal of 64 bits or the default version, which is small. -/
theorem fitsSigned_of_versionValue? {argument : Go.Node} {n : Int}
    (h : versionValue? imports argument = some n) : Number.fitsSigned n = true := by
  unfold versionValue? at h
  split at h
  · exact Number.fitsSigned_of_int64? h
  · exact Number.fitsSigned_of_int64? h
  · split at h
    · split_ifs at h
      obtain rfl := Option.some.inj h
      decide
    · cases h
  · split_ifs at h
    obtain rfl := Option.some.inj h
    decide
  · cases h

/-- Only call sites and versions hold numbers other than counts. -/
theorem proper_iff {body : Body} {float : Binary64 → Prop} :
    body.numbers.Proper float ↔
      (∀ site ∈ body.callSites, site.numbers.Proper float) ∧
        ∀ version ∈ body.versions, version.numbers.Proper float := by
  unfold numbers Numbers.Proper
  rw [all_append, all_append, all_ofAll, all_ofAll]
  exact ⟨fun h => ⟨h.1, h.2.1⟩, fun h => ⟨h.1, h.2, proper_counts _ _⟩⟩

/-- The calls that are no calls of the SDK hold nothing but lines. -/
theorem proper_sdkPart {body : Body} {float : Binary64 → Prop} :
    body.sdkPart.numbers.Proper float ↔ body.numbers.Proper float := by
  rw [proper_iff, proper_iff]
  rfl

/-- Adding a site adds its numbers and no others. -/
theorem proper_addCallSite {body : Body} {site : CallSite} {float : Binary64 → Prop}
    (h : body.numbers.Proper float) (hsite : site.numbers.Proper float) :
    (body.addCallSite site).numbers.Proper float := by
  obtain ⟨hsites, hversions⟩ := proper_iff.mp h
  refine proper_iff.mpr ⟨?_, hversions⟩
  exact List.forall_mem_append.mpr ⟨hsites, List.forall_mem_singleton.mpr hsite⟩

/-- A counted call below the node records what is read from the node. -/
theorem proper_count {body : Body} (h : body.numbers.Proper node.SpellsNumber)
    {counted : CountedCall} (hcall : counted.call ∈ node.preorder) :
    (body.count imports counted).numbers.Proper node.SpellsNumber := by
  obtain ⟨hsites, hversions⟩ := proper_iff.mp h
  rcases counted with ⟨call, action, resultType⟩
  cases action with
  | execute role =>
      rw [count_execute]
      split
      · next site hsite => exact proper_addCallSite h ((proper_callSite? hsite).below hcall)
      · exact h
  | getVersion =>
      refine proper_iff.mpr ⟨hsites, List.forall_mem_append.mpr ⟨hversions, ?_⟩⟩
      rw [List.forall_mem_singleton]
      refine ⟨fun _ _ => trivial, fun n hn => ?_, List.forall_mem_nil _⟩
      rcases List.mem_append.mp hn with hleast | hgreatest
      · obtain ⟨argument, _, hvalue⟩ := Option.bind_eq_some_iff.mp (Option.mem_toList.mp hleast)
        exact fitsSigned_of_versionValue? hvalue
      · obtain ⟨argument, _, hvalue⟩ := Option.bind_eq_some_iff.mp (Option.mem_toList.mp hgreatest)
        exact fitsSigned_of_versionValue? hvalue
  | _ => exact proper_iff.mpr ⟨hsites, hversions⟩

/-- What is extracted from a function is read from it, by induction on the counted calls. -/
theorem proper_extracted (imports : SdkImports) (function : Go.Node) :
    (extracted imports function).numbers.Proper function.SpellsNumber := by
  have hempty : ({} : Body).numbers.Proper function.SpellsNumber :=
    proper_iff.mpr ⟨List.forall_mem_nil _, List.forall_mem_nil _⟩
  rw [← proper_sdkPart, sdkPart_extracted]
  refine List.foldlRecOn (motive := fun body : Body => body.numbers.Proper function.SpellsNumber)
    _ _ hempty fun body hbody counted hcounted => proper_count hbody ?_
  exact Go.Node.mem_preorder_of_mem_bodyCalls (action_of_mem_countedIn hcounted).1

end Body

/-! ## Declarations -/

/-- A number literal of one of the sources spells the number. -/
def SpelledIn (sources : List SourceFile) (x : Binary64) : Prop :=
  ∃ source ∈ sources, source.root.SpellsNumber x

/-- Numbers of the sources are in their form. -/
theorem SpelledIn.isValid {sources : List SourceFile} {x : Binary64} (h : SpelledIn sources x) :
    x.IsValid := by
  obtain ⟨source, _, hspells⟩ := h
  exact hspells.isValid

/-- No number literal of the sources spells a decimal that rounds to infinity. -/
def LiteralsInRange (sources : List SourceFile) : Prop :=
  ∀ source ∈ sources, ∀ decimal ∈ source.root.decimals,
    Binary64.decimalValue decimal.1 decimal.2 < Binary64.infiniteFrom

/-- If no literal is out of range, no number that is read is infinite. -/
theorem SpelledIn.isFinite {sources : List SourceFile} {x : Binary64} (h : SpelledIn sources x)
    (hrange : LiteralsInRange sources) : x.isFinite = true := by
  obtain ⟨source, hsource, decimal, hdecimal, negative, rfl⟩ := h
  exact (Binary64.isFinite_ofDecimal_iff negative decimal.1 decimal.2).mpr
    (hrange source hsource decimal hdecimal)

/-- The numbers of every body are spelled in the sources. -/
def AllSpelledIn (sources : List SourceFile) (declarations : List Declaration) : Prop :=
  ∀ declaration ∈ declarations, declaration.body.numbers.Proper (SpelledIn sources)

/-- A declaration has the numbers of the function it declares. -/
theorem declare_ensures_proper (file : SourceFile) (candidate : Candidate) (role : NodeRole) :
    (declare file candidate role).Ensures fun declaration =>
      declaration.body.numbers.Proper candidate.function.SpellsNumber := by
  refine Run.ensures_bind fun _ => ?_
  refine (Body.extract_computes file.imports candidate.function).ensures.bind ?_
  rintro body rfl
  exact Run.ensures_pure (Body.proper_extracted file.imports candidate.function)

/-- A candidate remembers the function it was made from. -/
theorem Candidate.function_of_ofFunction? {file : SourceFile} {function : Go.Node}
    {candidate : Candidate} (h : Candidate.ofFunction? file function = some candidate) :
    candidate.function = function := by
  obtain ⟨name, _, rfl⟩ := Option.map_eq_some_iff.mp h
  rfl

/-- A function of a source adds at most one declaration, which is read from the source. -/
theorem declareFunction_ensures_spelledIn {sources : List SourceFile} {file : SourceFile}
    (hfile : file ∈ sources) (selection : Selection) (registry : Registry)
    {declarations : List Declaration} (h : AllSpelledIn sources declarations) {function : Go.Node}
    (hfunction : function ∈ file.root.preorder) :
    (declareFunction selection registry file declarations function).Ensures
      (AllSpelledIn sources) := by
  unfold declareFunction
  split
  · exact Run.ensures_pure h
  · next candidate hcandidate =>
      refine Run.ensures_bind fun found => ?_
      split
      · exact Run.ensures_pure h
      · split_ifs
        · exact Run.ensures_bind fun _ => Run.ensures_pure h
        · exact Run.ensures_bind fun _ => Run.ensures_pure h
        · refine (declare_ensures_proper _ _ _).bind fun declaration hbody => ?_
          rw [Candidate.function_of_ofFunction? hcandidate] at hbody
          refine Run.ensures_pure (List.forall_mem_append.mpr ⟨h, ?_⟩)
          exact List.forall_mem_singleton.mpr
            (hbody.imp fun x hx => ⟨file, hfile, hx.mono hfunction⟩)

/-- **The numbers that a walk records are read from its sources.** -/
theorem walk_ensures_spelledIn (selection : Selection) (registry : Registry)
    (sources : List SourceFile) :
    (walk selection registry sources).Ensures (AllSpelledIn sources) := by
  refine Run.ensures_bind fun _ => ?_
  refine Run.ensures_fold (fun declarations file hfile hdeclarations => ?_) (List.forall_mem_nil _)
  refine Run.ensures_bind fun _ => ?_
  refine Run.ensures_fold (fun declarations function hfunction h => ?_) hdeclarations
  refine declareFunction_ensures_spelledIn hfile selection registry h ?_
  exact Go.Node.mem_preorder_of_mem_phrases (List.mem_filter.mp hfunction).1

end WorkflowGraph
