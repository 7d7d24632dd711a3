import WorkflowGraph.Graph.Document
import WorkflowGraph.Proofs.GraphNumbers
import WorkflowGraph.Proofs.JsonText

/-!
# Records read back

`Encodes` says of a value and its JSON that the JSON can be written, and that what is read of it is
decoded as the value.  There is one rule for each way in which a record is put together: plain
values, lists, optional fields, objects.  The records of a graph follow from these rules, and with
them the graph: its document says all but which backoff coefficients are infinite
(`Graph.parse?_render`).
-/

namespace WorkflowGraph

open Number (Binary64)

namespace Json

/-- The JSON can be written, and what is read of it is decoded as the value. -/
structure Encodes {α : Type} (decode : Json → Option α) (json : Json) (a : α) : Prop where
  writable : Writable json
  decoded : decode json.asRead = some a

/-! ## Plain values -/

/-- Every text can be written, whatever characters are in it. -/
theorem encodes_text (text : String) : Encodes text? (ofText text) text :=
  ⟨.text text, rfl⟩

/-- Both truth values are read as they are written. -/
theorem encodes_bool (value : Bool) : Encodes bool? (bool value) value :=
  ⟨.bool value, rfl⟩

/-- A count below 2 ^ 64 is in the range that is checked for integers. -/
theorem fitsUnsigned_natCast {n : Nat} (h : n < 2 ^ 64) : Number.fitsUnsigned n = true := by
  simp only [Number.fitsUnsigned, Bool.and_eq_true, decide_eq_true_eq]
  omega

/-- A count is read as it is written as long as a machine holds it. -/
theorem encodes_nat {n : Nat} (h : n < 2 ^ 64) : Encodes nat? (ofNat n) n where
  writable := .integer (Or.inr (fitsUnsigned_natCast h))
  decoded := by
    rw [ofNat, asRead, nat?, if_pos (fitsUnsigned_natCast h)]
    rfl

/-- An integer is read as it is written if it is in the range of signed ones. -/
theorem encodes_int {n : Int} (h : Number.fitsSigned n = true) : Encodes int? (integer n) n where
  writable := .integer (Or.inl h)
  decoded := by rw [asRead, int?, if_pos h]

/-- An infinite number can be written too; it becomes `null`. -/
theorem writable_decimal {x : Binary64} (h : x.IsValid) : Writable (decimal x) := by
  cases x with
  | finite negative mantissa exponent => exact .decimal h
  | infinite negative => exact .infinite negative

/-- A finite number in its form is read as it is written. -/
theorem encodes_decimal {x : Binary64} (h : x.IsValid) (hfinite : x.isFinite = true) :
    Encodes decimal? (decimal x) x where
  writable := writable_decimal h
  decoded := by
    cases x with
    | finite negative mantissa exponent => rfl
    | infinite negative => cases hfinite

/-! ## Lists and objects -/

/-- The items of an array are read each on its own. -/
theorem itemsAsRead_eq_map (items : List Json) : itemsAsRead items = items.map asRead := by
  induction items with
  | nil => rfl
  | cons item items ih => rw [itemsAsRead, ih, List.map_cons]

/-- The values of an object are read each on its own and keep their keys. -/
theorem entriesAsRead_eq_map (fields : List (String × Json)) :
    entriesAsRead (fields.map fun field => (some field.1, field.2)) =
      fields.map fun field => (some field.1, field.2.asRead) := by
  induction fields with
  | nil => rfl
  | cons field fields ih => rw [List.map_cons, entriesAsRead, ih, List.map_cons]

/-- What is decoded item by item. -/
theorem mapM_map_eq_some {α β γ : Type} {decode : β → Option γ} {encode : α → β} {change : α → γ}
    {items : List α} (h : ∀ item ∈ items, decode (encode item) = some (change item)) :
    (items.map encode).mapM decode = some (items.map change) := by
  induction items with
  | nil => rfl
  | cons item items ih =>
      have hothers := ih fun other hother => h other (List.mem_cons_of_mem _ hother)
      simp only [List.map_cons, List.mapM_cons, h item List.mem_cons_self, hothers]
      rfl

/-- A list is read as the list of what its items are read as. -/
theorem encodes_list {α : Type} {decode : Json → Option α} {encode : α → Json} {change : α → α}
    {items : List α} (h : ∀ item ∈ items, Encodes decode (encode item) (change item)) :
    Encodes (list? decode) (ofList encode items) (items.map change) where
  writable := by
    apply Writable.array
    intro json hjson
    obtain ⟨item, hitem, rfl⟩ := List.mem_map.mp hjson
    exact (h item hitem).writable
  decoded := by
    rw [ofList, asRead, itemsAsRead_eq_map, list?, List.map_map]
    exact mapM_map_eq_some fun item hitem => (h item hitem).decoded

/-- An object can be written if the values of its fields can. -/
theorem writable_ofFields {fields : List (String × Json)}
    (h : ∀ field ∈ fields, Writable field.2) : Writable (ofFields fields) := by
  apply Writable.object
  · intro entry hentry
    obtain ⟨field, _, rfl⟩ := List.mem_map.mp hentry
    exact Option.some_ne_none _
  · intro entry hentry
    obtain ⟨field, hfield, rfl⟩ := List.mem_map.mp hentry
    exact h field hfield

/-- A written record is read as an object with the same keys in the same order. -/
theorem asRead_ofFields (fields : List (String × Json)) :
    (ofFields fields).asRead = object (fields.map fun field => (some field.1, field.2.asRead)) := by
  rw [ofFields, asRead, ← entriesAsRead_eq_map]

/-- The fields of a written record, as they are read. -/
def fieldsAsRead (fields : List (String × Json)) : Fields :=
  fun name => (fields.lookup name).map asRead

/-- A key is looked up in what is read as in what was written. -/
theorem lookup_map_asRead (fields : List (String × Json)) (name : String) :
    (fields.map fun field => (some field.1, field.2.asRead)).lookup (some name) =
      (fields.lookup name).map asRead := by
  induction fields with
  | nil => rfl
  | cons field fields ih =>
      obtain ⟨key, value⟩ := field
      by_cases h : name = key
      · subst h
        simp
      · have hkey : (some name == some key) = false := by simpa using h
        have hname : (name == key) = false := by simpa using h
        simp only [List.map_cons, List.lookup_cons, hkey, hname, ih]

/-- An object whose keys differ is a record. -/
theorem record?_asRead {fields : List (String × Json)} {names : List String}
    (hnames : fields.map Prod.fst = names) (hnodup : names.Nodup) :
    (ofFields fields).asRead.record? names = some (fieldsAsRead fields) := by
  have hkeys : (fields.map fun field => (some field.1, field.2.asRead)).map Prod.fst =
      names.map some := by
    rw [← hnames, List.map_map, List.map_map]
    rfl
  have hpresent : ¬(names.map some).contains none = true := by simp
  have hcount : ∀ name : String, (names.map some).count (some name) ≤ 1 :=
    fun name => List.nodup_iff_count_le_one.mp
      (hnodup.map (Option.some_injective String)) (some name)
  have honce : ¬(names.any fun name =>
      decide ((names.map some).count (some name) > 1)) = true := by
    simpa using fun name _ => hcount name
  rw [asRead_ofFields, record?, hkeys, if_neg hpresent, if_neg honce]
  congr 1
  funext name
  exact lookup_map_asRead fields name

/-- A record is read field by field. -/
theorem encodes_record {α : Type} {fields : List (String × Json)} {names : List String} {a : α}
    {build : Fields → Option α} (hnames : fields.map Prod.fst = names) (hnodup : names.Nodup)
    (hwritable : ∀ field ∈ fields, Writable field.2) (hbuild : build (fieldsAsRead fields) = some a) :
    Encodes (fun json => json.record? names >>= build) (ofFields fields) a where
  writable := writable_ofFields hwritable
  decoded := by
    rw [record?_asRead hnames hnodup]
    exact hbuild

section Fields

variable {α β : Type} {fields : List (String × Json)} {name : String} {decode : Json → Option α}
  {next : α → Option β} {b : β}

/-- A field that must be there, and then the others. -/
theorem required_bind {json : Json} {a : α} (hfield : fields.lookup name = some json)
    (h : Encodes decode json a) (hnext : next a = some b) :
    ((fieldsAsRead fields).required name decode >>= next) = some b := by
  rw [Fields.required, fieldsAsRead, hfield, Option.map_some, Option.bind_some, h.decoded]
  exact hnext

/-- A field that may be missing is read as `none` if it is `null`, so its values must not be read
from `null` themselves. -/
theorem optional_of_encodes {encode : α → Json} {change : α → α} {value : Option α}
    (hnull : decode null = none) (hfield : fields.lookup name = some (ofOption encode value))
    (h : ∀ a ∈ value, Encodes decode (encode a) (change a)) :
    (fieldsAsRead fields).optional name decode = some (value.map change) := by
  rw [Fields.optional, fieldsAsRead, hfield, Option.map_some]
  cases value with
  | none => rfl
  | some a =>
      have hdecoded := (h a rfl).decoded
      rw [ofOption]
      split
      · next heq => cases heq
      · next heq =>
          rw [Option.some.inj heq, hnull] at hdecoded
          cases hdecoded
      · next heq =>
          rw [← Option.some.inj heq, hdecoded]
          rfl

/-- A field that may be missing and whose values are never `null`, and then the others. -/
theorem optional_bind {encode : α → Json} {change : α → α} {value : Option α}
    {next : Option α → Option β} (hnull : decode null = none)
    (hfield : fields.lookup name = some (ofOption encode value))
    (h : ∀ a ∈ value, Encodes decode (encode a) (change a))
    (hnext : next (value.map change) = some b) :
    ((fieldsAsRead fields).optional name decode >>= next) = some b := by
  rw [optional_of_encodes hnull hfield h]
  exact hnext

/-- A text that may be missing, and then the others. -/
theorem optional_text_bind {value : Option String} {next : Option String → Option β}
    (hfield : fields.lookup name = some (ofOption ofText value)) (hnext : next value = some b) :
    ((fieldsAsRead fields).optional name text? >>= next) = some b := by
  have htexts : ∀ text ∈ value, Encodes text? (ofText text) (id text) :=
    fun text _ => encodes_text text
  exact optional_bind rfl hfield htexts (by rwa [Option.map_id])

/-- An integer that may be missing, and then the others. -/
theorem optional_int_bind {value : Option Int} {next : Option Int → Option β}
    (hfield : fields.lookup name = some (ofOption integer value))
    (h : ∀ n ∈ value, Number.fitsSigned n = true) (hnext : next value = some b) :
    ((fieldsAsRead fields).optional name int? >>= next) = some b := by
  have hints : ∀ n ∈ value, Encodes int? (integer n) (id n) := fun n hn => encodes_int (h n hn)
  exact optional_bind rfl hfield hints (by rwa [Option.map_id])

/-- A floating-point number that may be missing; an infinite one is missing as well. -/
theorem optional_decimal_bind {value : Option Binary64} {next : Option Binary64 → Option β}
    (hfield : fields.lookup name = some (ofOption decimal value))
    (hnext : next (value.bind Binary64.finite?) = some b) :
    ((fieldsAsRead fields).optional name decimal? >>= next) = some b := by
  rw [Fields.optional, fieldsAsRead, hfield, Option.map_some]
  rcases value with _ | ⟨negative, mantissa, exponent⟩ | negative
  · exact hnext
  · exact hnext
  · exact hnext

end Fields

/-- A list of texts is read as it is written. -/
theorem encodes_texts (texts : List String) : Encodes (list? text?) (ofList ofText texts) texts := by
  have htexts : ∀ text ∈ texts, Encodes text? (ofText text) (id text) :=
    fun text _ => encodes_text text
  simpa using encodes_list htexts

/-- Items that are read as they are. -/
theorem encodes_items {α : Type} {decode : Json → Option α} {encode : α → Json} {items : List α}
    (h : ∀ item ∈ items, Encodes decode (encode item) item) :
    Encodes (list? decode) (ofList encode items) items := by
  have hitems : ∀ item ∈ items, Encodes decode (encode item) (id item) := h
  simpa using encodes_list hitems

/-- A missing value is written as `null`, one that is there as itself. -/
theorem writable_ofOption {α : Type} {encode : α → Json} {value : Option α}
    (h : ∀ a ∈ value, Writable (encode a)) : Writable (ofOption encode value) := by
  cases value with
  | none => exact .null
  | some a => exact h a rfl

@[simp] theorem writable_ofText (text : String) : Writable (ofText text) := .text text

@[simp] theorem writable_bool (value : Bool) : Writable (bool value) := .bool value

@[simp] theorem writable_ofOption_ofText (value : Option String) :
    Writable (ofOption ofText value) :=
  writable_ofOption fun text _ => writable_ofText text

@[simp] theorem writable_ofList_ofText (texts : List String) : Writable (ofList ofText texts) :=
  (encodes_texts texts).writable

/-- An optional integer can be written if it is in range. -/
theorem writable_ofOption_integer {value : Option Int}
    (h : ∀ n ∈ value, Number.fitsSigned n = true) : Writable (ofOption integer value) :=
  writable_ofOption fun n hn => (encodes_int (h n hn)).writable

end Json

open Json

/-! ## Names -/

/-- The labels of the roles of nodes differ, so each names its role. -/
theorem NodeRole.encodes (role : NodeRole) : Encodes NodeRole.ofJson? role.toJson role :=
  ⟨.text role.label, by cases role <;> rfl⟩

/-- The labels of the roles of calls differ, so each names its role. -/
theorem CallRole.encodes (role : CallRole) : Encodes CallRole.ofJson? role.toJson role :=
  ⟨.text role.label, by cases role <;> rfl⟩

/-- The labels of resolutions differ, so each names its resolution. -/
theorem Resolution.encodes (resolution : Resolution) :
    Encodes Resolution.ofJson? resolution.toJson resolution :=
  ⟨.text resolution.label, by cases resolution <;> rfl⟩

/-! ## Call sites -/

/-- The one record that is not read as it is written: an infinite coefficient is read as none. -/
theorem RetryPolicy.encodes {policy : RetryPolicy} (h : policy.numbers.Fit) :
    Encodes RetryPolicy.ofJson? policy.toJson policy.asRead := by
  have hattempts : ∀ n ∈ policy.maximumAttempts, Number.fitsSigned n = true :=
    fun n hn => h.integers n (Option.mem_toList.mpr hn)
  have hbackoff : Writable (ofOption decimal policy.backoffCoefficient) :=
    writable_ofOption fun x hx => writable_decimal (h.floats x (Option.mem_toList.mpr hx))
  refine encodes_record rfl (by decide)
    (by simp [hbackoff, writable_ofOption_integer hattempts]) ?_
  refine optional_text_bind rfl ?_
  refine optional_decimal_bind rfl ?_
  refine optional_text_bind rfl ?_
  exact optional_int_bind rfl hattempts rfl

/-- Options change by their retry policy only. -/
theorem CallOptions.encodes {options : CallOptions} (h : options.numbers.Fit) :
    Encodes CallOptions.ofJson? options.toJson options.asRead := by
  have hpolicy : ∀ policy ∈ options.retryPolicy,
      Encodes RetryPolicy.ofJson? policy.toJson policy.asRead :=
    fun policy hpolicy =>
      RetryPolicy.encodes (Numbers.all_ofAll.mp h policy (Option.mem_toList.mpr hpolicy))
  refine encodes_record rfl (by decide)
    (by simp [writable_ofOption fun policy hmem => (hpolicy policy hmem).writable]) ?_
  refine required_bind rfl (encodes_bool _) ?_
  refine optional_text_bind rfl ?_
  refine optional_text_bind rfl ?_
  refine optional_text_bind rfl ?_
  refine optional_text_bind rfl ?_
  refine optional_text_bind rfl ?_
  refine optional_text_bind rfl ?_
  refine optional_text_bind rfl ?_
  refine optional_text_bind rfl ?_
  exact optional_bind rfl rfl hpolicy rfl

/-- A site changes by its options only. -/
theorem CallSite.encodes {site : CallSite} (h : site.numbers.Fit) :
    Encodes CallSite.ofJson? site.toJson site.asRead := by
  obtain ⟨hcounts, hnumbers⟩ := Numbers.all_append.mp h
  have hline := encodes_nat (hcounts.counts site.line (by simp))
  have harguments := encodes_nat (hcounts.counts site.argumentCount (by simp))
  have hoptions : ∀ options ∈ site.options,
      Encodes CallOptions.ofJson? options.toJson options.asRead :=
    fun options hoptions =>
      CallOptions.encodes (Numbers.all_ofAll.mp hnumbers options (Option.mem_toList.mpr hoptions))
  refine encodes_record rfl (by decide)
    (by simp [hline.writable, harguments.writable, (CallRole.encodes _).writable,
      (Resolution.encodes _).writable,
      writable_ofOption fun options hmem => (hoptions options hmem).writable]) ?_
  refine required_bind rfl (encodes_text _) ?_
  refine required_bind rfl (CallRole.encodes _) ?_
  refine required_bind rfl hline ?_
  refine optional_bind rfl rfl hoptions ?_
  refine required_bind rfl harguments ?_
  refine required_bind rfl (encodes_texts _) ?_
  refine optional_text_bind rfl ?_
  exact required_bind rfl (Resolution.encodes _) rfl

/-! ## What else a body holds -/

/-- A signal is read as it is written if its line is a count of 64 bits. -/
theorem Signal.encodes {signal : Signal} (h : signal.line < 2 ^ 64) :
    Encodes Signal.ofJson? signal.toJson signal := by
  refine encodes_record rfl (by decide) (by simp [(encodes_nat h).writable]) ?_
  refine required_bind rfl (encodes_text _) ?_
  refine optional_text_bind rfl ?_
  refine required_bind rfl (encodes_nat h) ?_
  exact required_bind rfl (encodes_bool _) rfl

/-- A query is written like a signal, without the flag. -/
theorem Query.encodes {query : Query} (h : query.line < 2 ^ 64) :
    Encodes Query.ofJson? query.toJson query := by
  refine encodes_record rfl (by decide) (by simp [(encodes_nat h).writable]) ?_
  refine required_bind rfl (encodes_text _) ?_
  refine optional_text_bind rfl ?_
  exact required_bind rfl (encodes_nat h) rfl

/-- An update is written like a signal; its flag is whether it has a validator. -/
theorem Update.encodes {update : Update} (h : update.line < 2 ^ 64) :
    Encodes Update.ofJson? update.toJson update := by
  refine encodes_record rfl (by decide) (by simp [(encodes_nat h).writable]) ?_
  refine required_bind rfl (encodes_text _) ?_
  refine optional_text_bind rfl ?_
  refine required_bind rfl (encodes_nat h) ?_
  exact required_bind rfl (encodes_bool _) rfl

/-- A timer is written with the text of its duration, so it holds no number but its line. -/
theorem Timer.encodes {timer : Timer} (h : timer.line < 2 ^ 64) :
    Encodes Timer.ofJson? timer.toJson timer := by
  refine encodes_record rfl (by decide) (by simp [(encodes_nat h).writable]) ?_
  refine required_bind rfl (encodes_text _) ?_
  refine required_bind rfl (encodes_bool _) ?_
  exact required_bind rfl (encodes_nat h) rfl

/-- Either end of a version may be missing, and both are signed integers. -/
theorem Version.encodes {version : Version} (h : version.numbers.Fit) :
    Encodes Version.ofJson? version.toJson version := by
  have hline := encodes_nat (h.counts version.line (by simp [Version.numbers]))
  have hmin : ∀ n ∈ version.minVersion, Number.fitsSigned n = true :=
    fun n hn => h.integers n (List.mem_append_left _ (Option.mem_toList.mpr hn))
  have hmax : ∀ n ∈ version.maxVersion, Number.fitsSigned n = true :=
    fun n hn => h.integers n (List.mem_append_right _ (Option.mem_toList.mpr hn))
  refine encodes_record rfl (by decide)
    (by simp [hline.writable, writable_ofOption_integer hmin, writable_ofOption_integer hmax]) ?_
  refine required_bind rfl (encodes_text _) ?_
  refine optional_int_bind rfl hmin ?_
  refine optional_int_bind rfl hmax ?_
  exact required_bind rfl hline rfl

/-- The names of search attributes are one text. -/
theorem SearchAttribute.encodes {attributes : SearchAttribute} (h : attributes.line < 2 ^ 64) :
    Encodes SearchAttribute.ofJson? attributes.toJson attributes := by
  refine encodes_record rfl (by decide) (by simp [(encodes_nat h).writable]) ?_
  refine required_bind rfl (encodes_text _) ?_
  exact required_bind rfl (encodes_nat h) rfl

/-- The target of a new run may be missing, the line may not. -/
theorem ContinueAsNew.encodes {marker : ContinueAsNew} (h : marker.line < 2 ^ 64) :
    Encodes ContinueAsNew.ofJson? marker.toJson marker := by
  refine encodes_record rfl (by decide) (by simp [(encodes_nat h).writable]) ?_
  refine optional_text_bind rfl ?_
  exact required_bind rfl (encodes_nat h) rfl

/-- An internal call is written as its target and its line. -/
theorem InternalCall.encodes {call : InternalCall} (h : call.line < 2 ^ 64) :
    Encodes InternalCall.ofJson? call.toJson call := by
  refine encodes_record rfl (by decide) (by simp [(encodes_nat h).writable]) ?_
  refine required_bind rfl (encodes_text _) ?_
  exact required_bind rfl (encodes_nat h) rfl

/-- A parameter holds no number, so it is always read as it is written. -/
theorem Parameter.encodes (parameter : Parameter) :
    Encodes Parameter.ofJson? parameter.toJson parameter := by
  refine encodes_record rfl (by decide) (by simp) ?_
  refine required_bind rfl (encodes_text _) ?_
  exact required_bind rfl (encodes_text _) rfl

/-! ## Nodes and counts -/

/-- What the numbers of a body say of its parts. -/
structure Body.FitsParts (body : Body) : Prop where
  callSites : ∀ site ∈ body.callSites, site.numbers.Fit
  internalCalls : ∀ call ∈ body.internalCalls, call.line < 2 ^ 64
  signals : ∀ signal ∈ body.signals, signal.line < 2 ^ 64
  queries : ∀ query ∈ body.queries, query.line < 2 ^ 64
  updates : ∀ update ∈ body.updates, update.line < 2 ^ 64
  timers : ∀ timer ∈ body.timers, timer.line < 2 ^ 64
  searchAttributes : ∀ attributes ∈ body.searchAttributes, attributes.line < 2 ^ 64
  versions : ∀ version ∈ body.versions, version.numbers.Fit
  continueAsNew : ∀ marker ∈ body.continueAsNew, marker.line < 2 ^ 64

/-- Conditions on all numbers of a body are conditions on those of each of its parts. -/
theorem Body.fitsParts {body : Body} (h : body.numbers.Fit) : body.FitsParts := by
  obtain ⟨hsites, hothers⟩ := Numbers.all_append.mp h
  obtain ⟨hversions, hlines⟩ := Numbers.all_append.mp hothers
  have hline : ∀ n ∈ body.lines, n < 2 ^ 64 := hlines.counts
  constructor
  · exact Numbers.all_ofAll.mp hsites
  · exact fun call hcall => hline _ (by simp [Body.lines, List.mem_map_of_mem hcall])
  · exact fun signal hsignal => hline _ (by simp [Body.lines, List.mem_map_of_mem hsignal])
  · exact fun query hquery => hline _ (by simp [Body.lines, List.mem_map_of_mem hquery])
  · exact fun update hupdate => hline _ (by simp [Body.lines, List.mem_map_of_mem hupdate])
  · exact fun timer htimer => hline _ (by simp [Body.lines, List.mem_map_of_mem htimer])
  · exact fun attributes hmem => hline _ (by simp [Body.lines, List.mem_map_of_mem hmem])
  · exact Numbers.all_ofAll.mp hversions
  · exact fun marker hmarker => hline _ (by simp [Body.lines, List.mem_map_of_mem hmarker])

/-- A node changes by the sites of its body only, and the lists of the body stand beside its own
fields. -/
theorem GraphNode.encodes {node : GraphNode} (h : node.numbers.Fit) :
    Encodes GraphNode.ofJson? node.toJson node.asRead := by
  obtain ⟨hown, hbody⟩ := Numbers.all_append.mp h
  have hparts := Body.fitsParts hbody
  have hline := encodes_nat (hown.counts node.lineNumber (by simp))
  have hparameters := encodes_items fun parameter (_ : parameter ∈ node.parameters) =>
    parameter.encodes
  have hsites := encodes_list fun site hsite => CallSite.encodes (hparts.callSites site hsite)
  have hcalls := encodes_items fun call hcall =>
    InternalCall.encodes (hparts.internalCalls call hcall)
  have hsignals := encodes_items fun signal hmem => Signal.encodes (hparts.signals signal hmem)
  have hqueries := encodes_items fun query hmem => Query.encodes (hparts.queries query hmem)
  have hupdates := encodes_items fun update hmem => Update.encodes (hparts.updates update hmem)
  have htimers := encodes_items fun timer hmem => Timer.encodes (hparts.timers timer hmem)
  have hattributes := encodes_items fun attributes hmem =>
    SearchAttribute.encodes (hparts.searchAttributes attributes hmem)
  have hversions := encodes_items fun version hmem => Version.encodes (hparts.versions version hmem)
  have hmarkers := encodes_items fun marker hmem =>
    ContinueAsNew.encodes (hparts.continueAsNew marker hmem)
  refine encodes_record rfl (by decide) (by simp [hline.writable, hparameters.writable,
    hsites.writable, hcalls.writable, hsignals.writable, hqueries.writable, hupdates.writable,
    htimers.writable, hattributes.writable, hversions.writable, hmarkers.writable,
    (NodeRole.encodes _).writable]) ?_
  refine required_bind rfl (encodes_text _) ?_
  refine required_bind rfl (NodeRole.encodes _) ?_
  refine required_bind rfl (encodes_text _) ?_
  refine required_bind rfl (encodes_text _) ?_
  refine required_bind rfl hline ?_
  refine optional_text_bind rfl ?_
  refine required_bind rfl hparameters ?_
  refine required_bind rfl (encodes_texts _) ?_
  -- the lists of the body stand among the fields of the node
  refine Option.bind_eq_some_iff.mpr ⟨node.body.asRead, ?_, ?_⟩
  · refine required_bind rfl hsites ?_
    refine required_bind rfl hcalls ?_
    refine required_bind rfl hsignals ?_
    refine required_bind rfl hqueries ?_
    refine required_bind rfl hupdates ?_
    refine required_bind rfl htimers ?_
    refine required_bind rfl hattributes ?_
    refine required_bind rfl hversions ?_
    exact required_bind rfl hmarkers rfl
  · refine required_bind rfl (encodes_texts _) ?_
    exact required_bind rfl (encodes_bool _) rfl

/-- Counts are read as they are written if the average is finite. -/
theorem Stats.encodes {stats : Stats} (h : stats.numbers.Fit)
    (hfinite : stats.avgFanOut.isFinite = true) : Encodes Stats.ofJson? stats.toJson stats := by
  have haverage := encodes_decimal (h.floats stats.avgFanOut (by simp [Stats.numbers])) hfinite
  have hcounts : ∀ n ∈ stats.counts, Encodes nat? (ofNat n) n :=
    fun n hn => encodes_nat (h.counts n hn)
  simp only [Stats.counts, List.forall_mem_cons] at hcounts
  obtain ⟨hworkflows, hactivities, hsignals, hqueries, hupdates, htimers, hversions, hattributes,
    hstubs, hsites, hfanOut, horphans, hdepth, _⟩ := hcounts
  refine encodes_record rfl (by decide) (by simp [haverage.writable, hworkflows.writable,
    hactivities.writable, hsignals.writable, hqueries.writable, hupdates.writable,
    htimers.writable, hversions.writable, hattributes.writable, hstubs.writable, hsites.writable,
    hfanOut.writable, horphans.writable, hdepth.writable]) ?_
  refine required_bind rfl hworkflows ?_
  refine required_bind rfl hactivities ?_
  refine required_bind rfl hsignals ?_
  refine required_bind rfl hqueries ?_
  refine required_bind rfl hupdates ?_
  refine required_bind rfl htimers ?_
  refine required_bind rfl hversions ?_
  refine required_bind rfl hattributes ?_
  refine required_bind rfl hstubs ?_
  refine required_bind rfl hsites ?_
  refine required_bind rfl hfanOut ?_
  refine required_bind rfl haverage ?_
  refine required_bind rfl horphans ?_
  exact required_bind rfl hdepth rfl

/-! ## The graph -/

namespace Graph

/-- Nodes are read in the order in which they are written, and under the same keys. -/
theorem encodes_nodes {nodes : Table GraphNode} (h : ∀ node ∈ nodes.values, node.numbers.Fit) :
    Encodes nodesOfJson? (nodesToJson nodes) (nodes.mapValues GraphNode.asRead) := by
  have hnode : ∀ entry ∈ nodes.entries,
      Encodes GraphNode.ofJson? entry.2.toJson entry.2.asRead :=
    fun entry hentry => GraphNode.encodes (h _ (List.mem_map_of_mem hentry))
  constructor
  · apply writable_ofFields
    intro field hfield
    obtain ⟨entry, hentry, rfl⟩ := List.mem_map.mp hfield
    exact (hnode entry hentry).writable
  · rw [nodesToJson, asRead_ofFields, List.map_map]
    refine Option.bind_eq_some_iff.mpr
      ⟨nodes.entries.map fun entry => (entry.1, entry.2.toJson.asRead), ?_, ?_⟩
    · exact mapM_map_eq_some fun entry _ => rfl
    · refine Option.bind_eq_some_iff.mpr ⟨(nodes.mapValues GraphNode.asRead).entries, ?_, ?_⟩
      · refine mapM_map_eq_some fun entry hentry => ?_
        simp only [(hnode entry hentry).decoded, Option.map_some]
      · rw [Table.ofList_entries]

/-- The numbers of a graph are what a machine holds, and the average is one of them that a document
can hold. -/
structure Fits (graph : Graph) : Prop where
  numbers : graph.numbers.Fit
  average : graph.stats.avgFanOut.isFinite = true

/-- A graph is written as its nodes and its counts, and both are read. -/
theorem encodes {graph : Graph} (h : graph.Fits) :
    Encodes Graph.ofJson? graph.toJson graph.asRead := by
  obtain ⟨hstats, hnodes⟩ := Numbers.all_append.mp h.numbers
  have hnodes := encodes_nodes (Numbers.all_ofAll.mp hnodes)
  have hstats := Stats.encodes hstats h.average
  refine encodes_record rfl (by decide) (by simp [hnodes.writable, hstats.writable]) ?_
  refine required_bind rfl hnodes ?_
  exact required_bind rfl hstats rfl

/-- **What the document of a graph says**: everything but which coefficients are infinite, in
either style. -/
theorem parse?_render (style : Json.Style) {graph : Graph} (h : graph.Fits) :
    Graph.parse? (graph.render style) = some graph.asRead := by
  have hencodes := encodes h
  rw [Graph.parse?, Graph.render, Json.parse?_render style hencodes.writable, Option.bind_some,
    hencodes.decoded]

end Graph

end WorkflowGraph
