import Mathlib.Data.List.Induction
import WorkflowGraph.Proofs.BodyRecords
import WorkflowGraph.Proofs.IntegerLiterals
import WorkflowGraph.Proofs.RecordedNumbers

/-!
# The integers that are recorded from a body

Three integers of a source get into a body: the two ends of a version, and the attempts of a retry
policy.  All are read as decimal digits with 64 bits, ends of versions with a sign or none.

An integer of a source is written as an expression, a literal with a sign before it or none
(`IntegerExpression`).  What is recorded for an expression can be said exactly: its literal taken as
decimal digits, if it consists of digits, and nothing otherwise (`recordsInteger_readInteger?`).  So
it is the value of the expression, unless the literal is a bare octal one of eight or more.

Main statement: `recorded_integers_are_values_iff`.
-/

namespace WorkflowGraph

/-! ## Signed decimals -/

namespace Number

theorem nat?_eq_some_iff {text : List Char} {n : Nat} :
    nat? text = some n ↔
      (text ≠ [] ∧ ∀ c ∈ text, c.isDigit = true) ∧ ofDigits text = n := by
  have htest : (!text.isEmpty && text.all Char.isDigit) = true ↔
      text ≠ [] ∧ ∀ c ∈ text, c.isDigit = true := by simp
  rw [nat?, ← htest]
  split
  · next h =>
      rw [Option.some.injEq]
      exact ⟨fun heq => ⟨h, heq⟩, And.right⟩
  · next h => exact ⟨nofun, fun heq => absurd heq.1 h⟩

theorem int64?_eq_some_iff {text : List Char} {n : Int} :
    int64? text = some n ↔ signed? text = some n ∧ fitsSigned n = true := by
  rw [int64?]
  cases signed? text with
  | none => simp
  | some m =>
      simp only [Option.some.injEq]
      split
      · next h =>
          rw [Option.some.injEq]
          exact ⟨fun heq => ⟨heq, heq ▸ h⟩, And.left⟩
      · next h => exact ⟨nofun, fun heq => absurd (heq.1 ▸ heq.2) h⟩

/-- The integers that a word of 64 bits holds with a sign. -/
def InWord (n : Int) : Prop := -2 ^ 63 ≤ n ∧ n < 2 ^ 63

theorem fitsSigned_iff {n : Int} : fitsSigned n = true ↔ InWord n := by
  simp [fitsSigned, InWord]

end Number

/-! ## Integer expressions -/

namespace Go

/-- The sign before a number. -/
inductive Sign where
  | plus
  | minus

def Sign.mark : Sign → Char
  | plus => '+'
  | minus => '-'

def Sign.apply : Sign → Nat → Int
  | plus => fun n => n
  | minus => fun n => -n

/-- White space and comments, which may stand between a sign and what it belongs to. -/
inductive IsGap : List Char → Prop
  | nil : IsGap []
  | space {c : Char} {rest : List Char} : isSpace c = true → IsGap rest → IsGap (c :: rest)
  | comment {text rest : List Char} : Literal.comment (text ++ rest) = some text.length →
      IsGap rest → IsGap (text ++ rest)

/-- An integer as it is written: a literal, or a literal after a sign. -/
inductive IntegerExpression where
  | unsigned (literal : IntegerLiteral)
  | signed (sign : Sign) (gap : { text : List Char // IsGap text }) (literal : IntegerLiteral)

namespace IntegerExpression

def literal : IntegerExpression → IntegerLiteral
  | unsigned literal => literal
  | signed _ _ literal => literal

def text : IntegerExpression → List Char
  | unsigned literal => literal.text
  | signed sign gap literal => sign.mark :: (gap.val ++ literal.text)

def kind : IntegerExpression → Kind
  | unsigned _ => .intLiteral
  | signed _ _ _ => .unaryExpression

/-- A number with the sign of the expression. -/
def withSign : IntegerExpression → Nat → Int
  | unsigned _, n => n
  | signed sign _ _, n => sign.apply n

/-- The value that the language gives the expression. -/
def value (expression : IntegerExpression) : Int := expression.withSign expression.literal.value

/-- The number that the expression would be with decimal digits. -/
def asDecimal (expression : IntegerExpression) : Int :=
  expression.withSign (Number.ofDigits expression.literal.text)

end IntegerExpression

/-- The node is the expression. -/
def Node.Writes (node : Node) (expression : IntegerExpression) : Prop :=
  node.kind = expression.kind ∧ node.text.toList = expression.text

theorem not_isDigit_of_isSpace {c : Char} (h : isSpace c = true) : ¬c.isDigit = true := by
  intro hdigit
  have hzero : '0'.toNat ≤ c.toNat := by
    simp only [Char.isDigit, Bool.and_eq_true, decide_eq_true_eq] at hdigit
    exact hdigit.1
  simp only [isSpace, Bool.or_eq_true, Bool.and_eq_true, decide_eq_true_eq, beq_iff_eq] at h
  rcases h with ⟨_, hreturn⟩ | rfl
  · exact absurd (Nat.le_trans hzero hreturn) (by decide)
  · exact absurd hzero (by decide)

theorem Literal.slash_mem_of_comment {text : List Char} {length : Nat}
    (h : Literal.comment text = some length) : '/' ∈ text := by
  unfold Literal.comment at h
  split at h
  · exact List.mem_cons_self
  · exact List.mem_cons_self
  · cases h

/-- A gap that has nothing but digits beside its spaces has no digits either. -/
theorem IsGap.eq_space {gap : List Char} (h : IsGap gap)
    (hdigits : ∀ c ∈ gap, c ≠ ' ' → c.isDigit = true) : ∀ c ∈ gap, c = ' ' := by
  induction h with
  | nil => exact fun _ hmem => absurd hmem List.not_mem_nil
  | space hspace _ ih =>
      obtain ⟨hc, hrest⟩ := List.forall_mem_cons.mp hdigits
      refine List.forall_mem_cons.mpr ⟨?_, ih hrest⟩
      by_contra hne
      exact not_isDigit_of_isSpace hspace (hc hne)
  | comment hcomment _ _ =>
      have hslash := hdigits '/' (Literal.slash_mem_of_comment hcomment) (by decide)
      cases hslash

end Go

/-! ## What is read from an expression -/

/-- What an integer is recorded as. -/
inductive IntegerUse where
  | version
  | attempts

/-- What is recorded for a node. -/
def readInteger? (imports : SdkImports) : IntegerUse → Go.Node → Option Int
  | .version => Body.versionValue? imports
  | .attempts => fun node => (numberLiteral? node).bind Number.int64?

/-- The expression is of a form that is read: its literal is plain, and only spaces stand after a
sign, which attempts must not have. -/
def Go.IntegerExpression.IsRead : IntegerUse → Go.IntegerExpression → Prop
  | _, .unsigned literal => literal.IsPlain
  | .version, .signed _ gap literal => (∀ c ∈ gap.val, c = ' ') ∧ literal.IsPlain
  | .attempts, .signed _ _ _ => False

/-- The literal is a bare octal one that decimal digits do not stand for. -/
def Go.IntegerLiteral.IsLargeOctal (literal : Go.IntegerLiteral) : Prop :=
  literal.IsBareOctal ∧ 8 ≤ literal.value

section Reading

variable {imports : SdkImports} {node : Go.Node}

theorem signed?_mark (sign : Go.Sign) (text : List Char) :
    Number.signed? (sign.mark :: text) = (Number.nat? text).map sign.apply := by
  cases sign <;> simp only [Go.Sign.mark, Number.signed?] <;> cases Number.nat? text <;> rfl

theorem signed?_literal (literal : Go.IntegerLiteral) :
    Number.signed? literal.text = (Number.nat? literal.text).map Go.Sign.plus.apply := by
  obtain ⟨c, rest, htext, hdigit⟩ := literal.exists_text_eq_cons
  rw [htext, Number.signed?]
  · cases Number.nat? (c :: rest) <;> rfl
  · rintro _ hminus
    cases hminus
    cases hdigit
  · rintro _ hplus
    cases hplus
    cases hdigit

theorem nat?_literal_eq_some_iff {literal : Go.IntegerLiteral} {n : Nat} :
    Number.nat? literal.text = some n ↔ literal.IsPlain ∧ Number.ofDigits literal.text = n := by
  obtain ⟨c, rest, htext, _⟩ := literal.exists_text_eq_cons
  rw [Number.nat?_eq_some_iff, Go.IntegerLiteral.IsPlain]
  simp [htext]

theorem filter_literal (literal : Go.IntegerLiteral) :
    literal.text.filter (· != ' ') = literal.text := by
  refine List.filter_eq_self.mpr fun c hc => ?_
  rw [bne_iff_ne]
  rintro rfl
  exact literal.space_notMem_text hc

/-- Between a sign and a literal only spaces are read over. -/
theorem nat?_gap_literal_eq_some_iff {gap : List Char} (hgap : Go.IsGap gap)
    {literal : Go.IntegerLiteral} {n : Nat} :
    Number.nat? (gap.filter (· != ' ') ++ literal.text) = some n ↔
      ((∀ c ∈ gap, c = ' ') ∧ literal.IsPlain) ∧ Number.ofDigits literal.text = n := by
  constructor
  · intro h
    obtain ⟨⟨_, hdigits⟩, hn⟩ := Number.nat?_eq_some_iff.mp h
    obtain ⟨hfront, hplain⟩ := List.forall_mem_append.mp hdigits
    have hspaces : ∀ c ∈ gap, c = ' ' :=
      hgap.eq_space fun c hc hne => hfront c (List.mem_filter.mpr ⟨hc, by simpa using hne⟩)
    have hnil : gap.filter (· != ' ') = [] := by simpa using hspaces
    rw [hnil, List.nil_append] at hn
    exact ⟨⟨hspaces, hplain⟩, hn⟩
  · rintro ⟨⟨hspaces, hplain⟩, hn⟩
    have hnil : gap.filter (· != ' ') = [] := by simpa using hspaces
    rw [hnil, List.nil_append]
    exact nat?_literal_eq_some_iff.mpr ⟨hplain, hn⟩

/-- What is read is the expression with decimal digits, if it is of a form that is read. -/
theorem readInteger?_eq_some_iff {use : IntegerUse} {expression : Go.IntegerExpression}
    (hnode : node.Writes expression) {n : Int} :
    readInteger? imports use node = some n ↔
      expression.IsRead use ∧ expression.asDecimal = n ∧ Number.fitsSigned n = true := by
  obtain ⟨hkind, htext⟩ := hnode
  cases expression with
  | unsigned literal =>
      have hread : readInteger? imports use node = Number.int64? literal.text := by
        cases use with
        | version =>
            rw [readInteger?, Body.versionValue?, hkind, htext]
            exact congrArg Number.int64? (filter_literal literal)
        | attempts =>
            have hliteral : numberLiteral? node = some literal.text := by
              rw [numberLiteral?, hkind, htext]
              rfl
            simp only [readInteger?, hliteral, Option.bind_some]
      rw [hread, Number.int64?_eq_some_iff, signed?_literal, Option.map_eq_some_iff]
      simp only [nat?_literal_eq_some_iff, and_assoc, exists_and_left, exists_eq_left']
      rfl
  | signed sign gap literal =>
      cases use with
      | version =>
          have hmark : sign.mark ≠ ' ' := by cases sign <;> decide
          have hread : readInteger? imports .version node =
              Number.int64? (sign.mark :: (gap.val.filter (· != ' ') ++ literal.text)) := by
            rw [readInteger?, Body.versionValue?, hkind, htext, Go.IntegerExpression.text,
              Go.IntegerExpression.kind, List.filter_cons_of_pos (by simpa using hmark),
              List.filter_append, filter_literal]
          rw [hread, Number.int64?_eq_some_iff, signed?_mark, Option.map_eq_some_iff]
          simp only [nat?_gap_literal_eq_some_iff gap.property, and_assoc, exists_and_left,
            exists_eq_left']
          exact and_assoc.symm
      | attempts =>
          simp [readInteger?, numberLiteral?, hkind, Go.IntegerExpression.kind,
            Go.IntegerExpression.IsRead]

end Reading

namespace Go.IntegerExpression

variable {expression : IntegerExpression}

theorem withSign_inj {m n : Nat} : expression.withSign m = expression.withSign n ↔ m = n := by
  rcases expression with _ | ⟨_ | _, _, _⟩ <;> simp [withSign, Sign.apply]

theorem IsRead.isPlain {use : IntegerUse} (h : expression.IsRead use) :
    expression.literal.IsPlain := by
  cases expression with
  | unsigned literal => exact h
  | signed sign gap literal =>
      cases use with
      | version => exact h.2
      | attempts => exact h.elim

theorem asDecimal_eq_value_iff (hplain : expression.literal.IsPlain) :
    expression.asDecimal = expression.value ↔ ¬expression.literal.IsLargeOctal := by
  obtain ⟨hle, hlt⟩ := expression.literal.ofDigits_text hplain
  rw [asDecimal, value, withSign_inj, IntegerLiteral.IsLargeOctal, ← hlt]
  omega

/-- A word that holds the decimal digits holds the value. -/
theorem inWord_value (hplain : expression.literal.IsPlain)
    (h : Number.InWord expression.asDecimal) : Number.InWord expression.value := by
  obtain ⟨hle, _⟩ := expression.literal.ofDigits_text hplain
  unfold Number.InWord asDecimal value at *
  rcases expression with _ | ⟨_ | _, _, _⟩ <;> simp only [withSign, Sign.apply, literal] at * <;>
    omega

end Go.IntegerExpression

/-- What is recorded for an expression.  It is the literal with decimal digits, if the expression is
read and a word holds the number.  This is the value of the expression, except for large octals. -/
structure RecordsInteger (use : IntegerUse) (expression : Go.IntegerExpression)
    (recorded : Option Int) : Prop where
  eq_some_iff : ∀ n, recorded = some n ↔
    expression.IsRead use ∧ expression.asDecimal = n ∧ Number.InWord n
  eq_value_iff : ∀ n, recorded = some n →
    (n = expression.value ↔ ¬expression.literal.IsLargeOctal)
  eq_some_value : expression.IsRead use → ¬expression.literal.IsLargeOctal →
    Number.InWord expression.value → recorded = some expression.value
  eq_none : ¬Number.InWord expression.value → recorded = none

theorem recordsInteger_readInteger? {imports : SdkImports} {use : IntegerUse} {node : Go.Node}
    {expression : Go.IntegerExpression} (hnode : node.Writes expression) :
    RecordsInteger use expression (readInteger? imports use node) := by
  have hread : ∀ n, readInteger? imports use node = some n ↔
      expression.IsRead use ∧ expression.asDecimal = n ∧ Number.InWord n := by
    intro n
    rw [readInteger?_eq_some_iff hnode, Number.fitsSigned_iff]
  refine ⟨hread, ?_, ?_, ?_⟩
  · intro n hn
    obtain ⟨hform, rfl, _⟩ := (hread n).mp hn
    exact Go.IntegerExpression.asDecimal_eq_value_iff hform.isPlain
  · intro hform hoctal hword
    have hvalue := (Go.IntegerExpression.asDecimal_eq_value_iff hform.isPlain).mpr hoctal
    exact (hread _).mpr ⟨hform, hvalue, hword⟩
  · intro hword
    rw [Option.eq_none_iff_forall_ne_some]
    intro n hn
    obtain ⟨hform, rfl, hdecimal⟩ := (hread n).mp hn
    exact hword (Go.IntegerExpression.inWord_value hform.isPlain hdecimal)

/-! ## The last value of a key -/

/-- The value that a composite literal gives a key; of several it is the last one. -/
def Go.Node.lastKeyed? (key : String) (node : Go.Node) : Option Go.Node :=
  (node.composite?.bind fun composite =>
    (composite.keyedElements.filter fun element => element.1.text == key).getLast?).map Prod.snd

/-- Setting the fields that keys name one after the other leaves what the last of a key sets. -/
theorem get_foldl_set {α β : Type} (set : α → String → Go.Node → α) (get : α → Option β)
    {read : Go.Node → Option β} {key : String} (hkey : ∀ a value, get (set a key value) = read value)
    (hother : ∀ a other value, other ≠ key → get (set a other value) = get a)
    (elements : List (Go.Node × Go.Node)) {start : α} (hstart : get start = none) :
    get (elements.foldl (fun a element => set a element.1.text element.2) start) =
      ((elements.filter fun element => element.1.text == key).getLast?.map Prod.snd).bind read := by
  induction elements using List.reverseRecOn with
  | nil => exact hstart
  | append_singleton elements element ih =>
      rw [List.foldl_append, List.foldl_cons, List.foldl_nil, List.filter_append]
      by_cases h : element.1.text = key
      · simp [h, hkey]
      · simp [h, hother, ih]

theorem RetryPolicy.maximumAttempts_ofNode (imports : SdkImports) (value : Go.Node) :
    (ofNode value).maximumAttempts =
      (value.lastKeyed? "MaximumAttempts").bind (readInteger? imports .attempts) := by
  unfold ofNode Go.Node.lastKeyed?
  cases value.composite? with
  | none => rfl
  | some composite =>
      refine get_foldl_set set maximumAttempts (fun _ _ => rfl) ?_ composite.keyedElements rfl
      intro policy other value hother
      unfold set
      split_ifs <;> rfl

theorem CallOptions.retryPolicy_ofNode (options : Option Go.Node) :
    (ofNode options).retryPolicy =
      (options.bind (Go.Node.lastKeyed? "RetryPolicy")).map RetryPolicy.ofNode := by
  cases options with
  | none => rfl
  | some value =>
      rw [Option.bind_some, Option.map_eq_bind]
      unfold ofNode Go.Node.lastKeyed?
      rw [Option.bind_some]
      cases value.composite? with
      | none => rfl
      | some composite =>
          exact get_foldl_set set retryPolicy (fun _ _ => rfl)
            (fun options _ value hother => retryPolicy_set hother options value)
            composite.keyedElements rfl

/-! ## Bodies -/

namespace Body

/-- What an extraction holds for the SDK are the records of the counted calls. -/
theorem sdkPart_extracted_eq_ofRecords (imports : SdkImports) (function : Go.Node) :
    (extracted imports function).sdkPart =
      ofRecords ((countedIn imports function).filterMap (CountedCall.record? imports)) := by
  rw [sdkPart_extracted, ofRecords, List.foldl_filterMap]
  congr 1
  funext body counted
  rw [count_eq_add]
  cases counted.record? imports <;> rfl

section Traced

variable {imports : SdkImports} {function : Go.Node}

/-- Only calls that ask for a version leave one. -/
theorem exists_call_of_mem_versions {version : Version}
    (h : version ∈ (extracted imports function).versions) :
    ∃ call ∈ function.bodyCalls, imports.action? call = some .getVersion ∧
      SdkAction.getVersion.metadata? imports call = some (.version version) := by
  have hpart : version ∈ (extracted imports function).sdkPart.versions := h
  rw [sdkPart_extracted_eq_ofRecords, mem_versions_ofRecords] at hpart
  obtain ⟨⟨call, action, resultType⟩, hcounted, hrecord⟩ := List.mem_filterMap.mp hpart
  obtain ⟨hcall, haction⟩ := action_of_mem_countedIn hcounted
  cases action with
  | getVersion => exact ⟨call, hcall, haction, hrecord⟩
  | execute role =>
      obtain ⟨site, _, hsite⟩ := Option.map_eq_some_iff.mp hrecord
      cases hsite
  | _ => cases hrecord

/-- Only calls that start something leave a site. -/
theorem exists_call_of_mem_callSites {site : CallSite}
    (h : site ∈ (extracted imports function).callSites) :
    ∃ call ∈ function.bodyCalls, ∃ role resultType, imports.action? call = some (.execute role) ∧
      callSite? imports role call resultType = some site := by
  have hpart : site ∈ (extracted imports function).sdkPart.callSites := h
  rw [sdkPart_extracted_eq_ofRecords, mem_callSites_ofRecords] at hpart
  obtain ⟨⟨call, action, resultType⟩, hcounted, hrecord⟩ := List.mem_filterMap.mp hpart
  obtain ⟨hcall, haction⟩ := action_of_mem_countedIn hcounted
  cases action with
  | execute role =>
      obtain ⟨made, hmade, hsite⟩ := Option.map_eq_some_iff.mp hrecord
      cases hsite
      exact ⟨call, hcall, role, resultType, haction, hmade⟩
  | _ => cases hrecord

end Traced

/-- A retry policy is read from the options around the context of a call. -/
theorem exists_keyed_of_contextOptions? {imports : SdkImports} {context : Go.Node}
    {options : CallOptions} {policy : RetryPolicy}
    (hoptions : contextOptions? imports context = some options)
    (hpolicy : options.retryPolicy = some policy) :
    ∃ value, context.arguments[1]?.bind (Go.Node.lastKeyed? "RetryPolicy") = some value ∧
      policy = .ofNode value := by
  unfold contextOptions? at hoptions
  split_ifs at hoptions
  split at hoptions
  · cases hoptions
  · split_ifs at hoptions
    obtain rfl := Option.some.inj hoptions
    rw [CallOptions.retryPolicy_ofNode, Option.map_eq_some_iff] at hpolicy
    obtain ⟨value, hvalue, rfl⟩ := hpolicy
    exact ⟨value, hvalue, rfl⟩

end Body

/-- What is recorded where something is written: nothing if nothing is written, and what belongs to
the expression if it is an integer. -/
def RecordedFrom (use : IntegerUse) (written : Option Go.Node) (recorded : Option Int) : Prop :=
  (written = none → recorded = none) ∧
    ∀ node expression, written = some node → node.Writes expression →
      RecordsInteger use expression recorded

theorem recordedFrom_bind (imports : SdkImports) (use : IntegerUse) (written : Option Go.Node) :
    RecordedFrom use written (written.bind (readInteger? imports use)) := by
  refine ⟨?_, ?_⟩
  · rintro rfl
    rfl
  · rintro node expression rfl hnode
    exact recordsInteger_readInteger? hnode

/-- **Recorded integers are values, except for large octals.**  For every function and all imports the
extraction succeeds.

* Every version of the body is recorded from a call, and its ends from the third and the fourth
  argument of the call.  Every retry policy of a call site is recorded from the options around the
  context of a call, and its attempts from the last value that it gives their key.
* Where an integer expression is written, the record is what `RecordsInteger` says: the value of the
  expression, unless the literal is a bare octal one of eight or more, which is recorded as the larger
  number that its digits spell in decimal.  Nothing is recorded if a word of 64 bits cannot hold the
  value, or if the expression is of a form that is not read.
* The literals of these expressions are the texts that the scanner takes for integers. -/
theorem recorded_integers_are_values_iff (imports : SdkImports) (function : Go.Node) :
    ∃ body, (Body.extract imports function).outcome = .ok body ∧
      (∀ version ∈ body.versions, ∃ call ∈ function.bodyCalls,
        imports.action? call = some .getVersion ∧
        version.changeId = Go.Node.nameOf call.arguments[1]? ∧ version.line = call.line ∧
        RecordedFrom .version call.arguments[2]? version.minVersion ∧
        RecordedFrom .version call.arguments[3]? version.maxVersion) ∧
      (∀ site ∈ body.callSites, ∃ call ∈ function.bodyCalls, ∃ context,
        imports.action? call = some (.execute site.targetRole) ∧ site.line = call.line ∧
        call.arguments[0]? = some context ∧
        ∀ options policy, site.options = some options → options.retryPolicy = some policy →
          ∃ value, context.arguments[1]?.bind (Go.Node.lastKeyed? "RetryPolicy") = some value ∧
            RecordedFrom .attempts (value.lastKeyed? "MaximumAttempts") policy.maximumAttempts) ∧
      ∀ text, (∃ literal : Go.IntegerLiteral, literal.text = text) ↔
        0 < Go.Literal.int text ∧ Go.Literal.int text = text.length := by
  refine ⟨Body.extracted imports function, (Body.extract_computes imports function).outcome_eq,
    ?_, ?_, ?_⟩
  · intro version hversion
    obtain ⟨call, hcall, haction, hrecord⟩ := Body.exists_call_of_mem_versions hversion
    obtain rfl := BodyRecord.version.inj (Option.some.inj hrecord)
    exact ⟨call, hcall, haction, rfl, rfl, recordedFrom_bind imports .version _,
      recordedFrom_bind imports .version _⟩
  · intro site hsite
    obtain ⟨call, hcall, role, resultType, haction, hmade⟩ :=
      Body.exists_call_of_mem_callSites hsite
    unfold Body.callSite? at hmade
    split at hmade
    · next context target payload harguments =>
        obtain rfl := Option.some.inj hmade
        refine ⟨call, hcall, context, haction, rfl, by rw [harguments]; rfl, ?_⟩
        intro options policy hoptions hpolicy
        obtain ⟨value, hvalue, rfl⟩ := Body.exists_keyed_of_contextOptions? hoptions hpolicy
        refine ⟨value, hvalue, ?_⟩
        rw [RetryPolicy.maximumAttempts_ofNode imports]
        exact recordedFrom_bind imports .attempts _
    · cases hmade
  · intro text
    rw [← Go.Literal.isSome_integer?_iff, Option.isSome_iff_exists]
    exact ⟨fun ⟨literal, htext⟩ => ⟨literal.value, htext ▸ literal.reads⟩,
      fun ⟨value, hreads⟩ => ⟨⟨text, value, hreads⟩, rfl⟩⟩

section Fee

/-- A workflow with a version whose upper end is written as an octal eight. -/
def feeSource : String :=
  "package orders\n\nimport \"go.temporal.io/sdk/workflow\"\n\n" ++
    "func FeeWorkflow(ctx workflow.Context) error \x7b\n" ++
    "\tworkflow.GetVersion(ctx, \"fee\", workflow.DefaultVersion, 010)\n\treturn nil\n\x7d\n"

def octalEight : Go.IntegerLiteral := ⟨['0', '1', '0'], 8, by decide⟩

/-- The end of the version is recorded as ten. -/
theorem octal_eight_is_recorded_as_ten :
    ∃ file, SourceFile.ofText "fee.go" feeSource = .ok file ∧
      ∃ function ∈ file.functions, ∃ call ∈ function.bodyCalls, ∃ node,
        call.arguments[3]? = some node ∧ node.Writes (.unsigned octalEight) ∧
        (Go.IntegerExpression.unsigned octalEight).value = 8 ∧
        ∃ body, (Body.extract file.imports function).outcome = .ok body ∧
          ∃ version ∈ body.versions, version.line = call.line ∧ version.maxVersion = some 10 := by
  have hrecorded : ∃ file ∈ (SourceFile.ofText "fee.go" feeSource).toOption,
      ∃ function ∈ file.functions, ∃ call ∈ function.bodyCalls, ∃ node ∈ call.arguments[3]?,
        (node.kind = .intLiteral ∧ node.text.toList = ['0', '1', '0']) ∧
        ∃ version ∈ (Body.extracted file.imports function).versions,
          version.line = call.line ∧ version.maxVersion = some 10 := by
    decide +kernel
  obtain ⟨file, hfile, function, hfunction, call, hcall, node, hnode, hwrites, version, hversion⟩ :=
    hrecorded
  refine ⟨file, ?_, function, hfunction, call, hcall, node, hnode, hwrites, rfl, _,
    (Body.extract_computes file.imports function).outcome_eq, version, hversion⟩
  cases hresult : SourceFile.ofText "fee.go" feeSource with
  | error failure =>
      rw [hresult] at hfile
      cases hfile
  | ok found =>
      rw [hresult] at hfile
      cases hfile
      rfl

end Fee

end WorkflowGraph
