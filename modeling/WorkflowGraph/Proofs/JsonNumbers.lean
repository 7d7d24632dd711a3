import WorkflowGraph.Json.Reader
import WorkflowGraph.Json.Writer
import WorkflowGraph.Proofs.ShortestDecimal

/-!
# Numbers of a document read back

A decimal is written in one of four shapes.  All of them are digits, a fraction and an exponent,
each of the last two possibly missing (`Spelling`), and the reader gets the parts back whatever
follows, as long as no number goes on with it (`EndsNumber`).  The value of the parts is the value
that was written, so a finite number is read back as itself (`number?_decimal`), and so is an
integer of 64 bits (`number?_integer`).
-/

namespace WorkflowGraph.Json

open Number Number.Binary64

/-- The characters with which a number may go on. -/
def continuesNumber (c : Char) : Bool := c.isDigit || c == '.' || c == 'e' || c == 'E'

/-- No number goes on with the text. -/
def EndsNumber (rest : List Char) : Prop := ∀ c ∈ rest.head?, continuesNumber c = false

/-! ## Digits and what follows -/

section Parts

variable {rest : List Char}

theorem EndsNumber.not_digit (h : EndsNumber rest) : ∀ c ∈ rest.head?, c.isDigit = false := by
  intro c hc
  have := h c hc
  simp only [continuesNumber, Bool.or_eq_false_iff] at this
  exact this.1.1.1

theorem EndsNumber.fraction? (h : EndsNumber rest) : Reader.fraction? rest = some (none, rest) := by
  rw [Reader.fraction?.eq_def]
  split
  · exact absurd (h '.' rfl) (by decide)
  · rfl

theorem EndsNumber.exponent? (h : EndsNumber rest) : Reader.exponent? rest = some (none, rest) := by
  rw [Reader.exponent?.eq_def]
  split
  · exact absurd (h 'e' rfl) (by decide)
  · exact absurd (h 'E' rfl) (by decide)
  · rfl

theorem digits?_append {text : List Char} (hne : text ≠ []) (hdigits : ∀ c ∈ text, c.isDigit = true)
    (hrest : ∀ c ∈ rest.head?, c.isDigit = false) :
    Reader.digits? (text ++ rest) = some (text, rest) := by
  have htake : rest.takeWhile Char.isDigit = [] := by
    cases rest with
    | nil => rfl
    | cons c rest => exact List.takeWhile_cons_of_neg (by simp [hrest c rfl])
  have hdrop : rest.dropWhile Char.isDigit = rest := by
    cases rest with
    | nil => rfl
    | cons c rest => exact List.dropWhile_cons_of_neg (by simp [hrest c rfl])
  have hspan : (text ++ rest).span Char.isDigit = (text, rest) := by
    rw [List.span_eq_takeWhile_dropWhile, List.takeWhile_append_of_pos hdigits, htake,
      List.append_nil, List.dropWhile_append_of_pos hdigits, hdrop]
  rw [Reader.digits?, hspan]
  cases text with
  | nil => exact absurd rfl hne
  | cons c text => rfl

theorem digits?_digits (n : Nat) (hrest : ∀ c ∈ rest.head?, c.isDigit = false) :
    Reader.digits? (digits n ++ rest) = some (digits n, rest) :=
  digits?_append (digits_ne_nil n) (fun _ hc => isDigit_of_mem_digits hc) hrest

theorem whole?_append {text : List Char} (hne : text ≠ []) (hdigits : ∀ c ∈ text, c.isDigit = true)
    (hzero : ∀ c others, text ≠ '0' :: c :: others) (hrest : ∀ c ∈ rest.head?, c.isDigit = false) :
    Reader.whole? (text ++ rest) = some (text, rest) := by
  rw [Reader.whole?, digits?_append hne hdigits hrest]
  split
  · next h =>
      cases h
      exact absurd rfl (hzero _ _)
  · rfl

/-- The text of an exponent, with its letter; none has no text. -/
def powerText : Option Int → List Char
  | none => []
  | some power => 'e' :: (exponentText power).toList

theorem exponent?_powerText (power : Option Int) (hrest : EndsNumber rest) :
    Reader.exponent? (powerText power ++ rest) = some (power, rest) := by
  cases power with
  | none => exact hrest.exponent?
  | some power =>
      have hread : Reader.exponentPart? ((exponentText power).toList ++ rest) =
          some (power, rest) := by
        cases power with
        | ofNat n =>
            have hsign : ¬Int.ofNat n < 0 := Int.not_lt.mpr (Int.natCast_nonneg n)
            rw [exponentText, if_neg hsign]
            simp [intText, natText, Reader.exponentPart?, digits?_digits n hrest.not_digit]
        | negSucc n =>
            rw [exponentText, if_pos (Int.negSucc_lt_zero n)]
            simp [intText, natText, Reader.exponentPart?, digits?_digits (n + 1) hrest.not_digit,
              Int.negSucc_eq]
      rw [powerText, List.cons_append, Reader.exponent?, hread]
      rfl

end Parts

/-! ## Decimals -/

/-- The parts of an unsigned decimal. -/
structure Spelling where
  whole : List Char
  fraction : List Char
  power : Option Int

namespace Spelling

variable {rest : List Char}

/-- The text of a fraction, with its point; none has no text. -/
def fractionText : List Char → List Char
  | [] => []
  | first :: others => '.' :: first :: others

theorem fractionText_of_ne_nil {text : List Char} (h : text ≠ []) :
    fractionText text = '.' :: text := by
  cases text with
  | nil => exact absurd rfl h
  | cons first others => rfl

def chars (spelling : Spelling) : List Char :=
  spelling.whole ++ (fractionText spelling.fraction ++ powerText spelling.power)

/-- All digits as one number. -/
def number (spelling : Spelling) : Nat := ofDigits (spelling.whole ++ spelling.fraction)

/-- The power of ten of the last digit. -/
def place (spelling : Spelling) : Int :=
  spelling.power.getD 0 - spelling.fraction.length

/-- A decimal that the reader takes, and does not take for an integer. -/
structure Lawful (spelling : Spelling) : Prop where
  whole_ne_nil : spelling.whole ≠ []
  whole_digits : ∀ c ∈ spelling.whole, c.isDigit = true
  no_leading_zero : ∀ c others, spelling.whole ≠ '0' :: c :: others
  fraction_digits : ∀ c ∈ spelling.fraction, c.isDigit = true
  not_integer : spelling.fraction ≠ [] ∨ spelling.power ≠ none

/-- Without an exponent the fraction is the last part. -/
theorem chars_of_power_none {spelling : Spelling} (h : spelling.Lawful)
    (hpower : spelling.power = none) :
    spelling.chars = spelling.whole ++ '.' :: spelling.fraction := by
  have hfraction := h.not_integer.resolve_right fun hsome => hsome hpower
  rw [chars, hpower, powerText, List.append_nil, fractionText_of_ne_nil hfraction]

theorem endsNumber_head_powerText (power : Option Int) (hrest : EndsNumber rest) :
    ∀ c ∈ (powerText power ++ rest).head?, c.isDigit = false := by
  cases power with
  | none => exact hrest.not_digit
  | some power =>
      intro c hc
      obtain rfl : 'e' = c := by simpa [powerText] using hc
      rfl

theorem fraction?_fractionText {fraction : List Char} (power : Option Int)
    (hdigits : ∀ c ∈ fraction, c.isDigit = true) (hrest : EndsNumber rest) :
    Reader.fraction? (fractionText fraction ++ (powerText power ++ rest)) =
      some (if fraction = [] then none else some fraction, powerText power ++ rest) := by
  cases fraction with
  | nil =>
      cases power with
      | none => exact hrest.fraction?
      | some power => rfl
  | cons c others =>
      have hread := digits?_append (List.cons_ne_nil c others) hdigits
        (endsNumber_head_powerText power hrest)
      rw [fractionText, List.cons_append, Reader.fraction?, hread]
      rfl

theorem head_fractionText_powerText (fraction : List Char) (power : Option Int)
    (hrest : EndsNumber rest) :
    ∀ c ∈ (fractionText fraction ++ (powerText power ++ rest)).head?, c.isDigit = false := by
  cases fraction with
  | nil => exact endsNumber_head_powerText power hrest
  | cons d others =>
      intro c hc
      obtain rfl : '.' = c := by simpa [fractionText] using hc
      rfl

/-- **The parts of a decimal are read back.** -/
theorem unsigned?_chars (negative : Bool) {spelling : Spelling} (h : spelling.Lawful)
    (hrest : EndsNumber rest) :
    Reader.unsigned? negative (spelling.chars ++ rest) =
      some (decimal (.ofDecimal negative spelling.number spelling.place), rest) := by
  have hwhole := whole?_append h.whole_ne_nil h.whole_digits h.no_leading_zero
    (head_fractionText_powerText spelling.fraction spelling.power hrest)
  have hfraction := fraction?_fractionText spelling.power h.fraction_digits hrest
  have hpower := exponent?_powerText spelling.power hrest
  rw [chars, List.append_assoc, List.append_assoc, Reader.unsigned?, hwhole]
  simp only [Option.bind_eq_bind, Option.bind_some, hfraction, hpower, number, place]
  by_cases hnone : spelling.fraction = []
  · have hpower := h.not_integer.resolve_left fun hsome => hsome hnone
    obtain ⟨power, hsome⟩ := Option.ne_none_iff_exists'.mp hpower
    simp [hnone, hsome]
  · simp [hnone]

/-! ### The four shapes -/

section Shapes

variable {n : Nat} (power : Int)

/-- The spelling has the value of a number and a power of ten. -/
structure SpellsValue (spelling : Spelling) (n : Nat) (power : Int) : Prop where
  lawful : spelling.Lawful
  value : decimalValue spelling.number spelling.place = decimalValue n power

/-- A number without a fraction gets one that is zero. -/
theorem spellsValue_whole {power : Int} (hn : n ≠ 0) (hpower : 0 ≤ power) :
    SpellsValue ⟨digits n ++ List.replicate power.toNat '0', ['0'], none⟩ n power := by
  obtain ⟨first, others, hfirst, hne⟩ := head_digits_ne hn
  constructor
  · constructor
    · simp [hfirst]
    · intro c hc
      rcases List.mem_append.mp hc with hc | hc
      · exact isDigit_of_mem_digits hc
      · rw [List.eq_of_mem_replicate hc]
        rfl
    · intro c rest heq
      rw [hfirst, List.cons_append] at heq
      exact hne (List.cons.inj heq).1
    · intro c hc
      rw [List.mem_singleton.mp hc]
      rfl
    · exact Or.inl (List.cons_ne_nil _ _)
  · obtain ⟨k, rfl⟩ := Int.eq_ofNat_of_zero_le hpower
    have hzero : ofDigits ['0'] = 0 := rfl
    simp only [number, place, decimalValue, ofDigits_append, ofDigits_digits, hzero,
      ofDigits_replicate_zero, Int.toNat_natCast, List.length_replicate, List.length_singleton,
      Option.getD_none, zpow_natCast]
    push_cast
    norm_num
    ring

/-- The point stands among the digits. -/
theorem spellsValue_split {power : Int} (hn : n ≠ 0) (hpower : power < 0) {count : Nat} (hcount : 0 < count)
    (hplace : (count : Int) = (digits n).length + power) :
    SpellsValue ⟨(digits n).take count, (digits n).drop count, none⟩ n power := by
  obtain ⟨first, others, hfirst, hne⟩ := head_digits_ne hn
  obtain ⟨count, rfl⟩ : ∃ k, count = k + 1 := ⟨count - 1, by omega⟩
  have hlength : ((digits n).drop (count + 1)).length = (digits n).length - (count + 1) :=
    List.length_drop
  constructor
  · constructor
    · simp [hfirst]
    · exact fun c hc => isDigit_of_mem_digits (List.mem_of_mem_take hc)
    · intro c rest heq
      rw [hfirst, List.take_succ_cons] at heq
      exact hne (List.cons.inj heq).1
    · exact fun c hc => isDigit_of_mem_digits (List.mem_of_mem_drop hc)
    · refine Or.inl (List.ne_nil_of_length_pos ?_)
      rw [hlength]
      omega
  · have hpower' : -(((digits n).length - (count + 1) : Nat) : Int) = power := by omega
    simp only [number, place, List.take_append_drop, ofDigits_digits, hlength, Option.getD_none,
      Int.zero_sub, hpower']

/-- All digits stand behind the point, after zeros. -/
theorem spellsValue_small (count : Nat) (hcount : (count : Int) = -power - (digits n).length) :
    SpellsValue ⟨['0'], List.replicate count '0' ++ digits n, none⟩ n power := by
  constructor
  · constructor
    · exact List.cons_ne_nil _ _
    · intro c hc
      rw [List.mem_singleton.mp hc]
      rfl
    · exact fun c rest heq => by cases heq
    · intro c hc
      rcases List.mem_append.mp hc with hc | hc
      · rw [List.eq_of_mem_replicate hc]
        rfl
      · exact isDigit_of_mem_digits hc
    · exact Or.inl (by simp [digits_ne_nil])
  · have hzero : ofDigits ['0'] = 0 := rfl
    have hpower : -(((count + (digits n).length : Nat)) : Int) = power := by omega
    simp only [number, place, ofDigits_append, hzero, ofDigits_replicate_zero, ofDigits_digits,
      Nat.zero_mul, Nat.zero_add, List.length_append, List.length_replicate, Option.getD_none,
      Int.zero_sub, hpower]

/-- One digit stands before the point, and the exponent says where the point belongs. -/
theorem spellsValue_scientific {first : Char} {others : List Char}
    (hdigits : digits n = first :: others) :
    SpellsValue ⟨[first], others, some ((digits n).length - 1 + power)⟩ n power := by
  have hmem : ∀ c ∈ first :: others, c.isDigit = true := by
    rw [← hdigits]
    exact fun c hc => isDigit_of_mem_digits hc
  constructor
  · constructor
    · exact List.cons_ne_nil _ _
    · exact fun c hc => hmem c (List.mem_cons.mpr (Or.inl (List.mem_singleton.mp hc)))
    · exact fun c rest heq => by cases heq
    · exact fun c hc => hmem c (List.mem_cons_of_mem _ hc)
    · exact Or.inr (Option.some_ne_none _)
  · have hnumber : ofDigits ([first] ++ others) = n := by
      rw [List.singleton_append, ← hdigits, ofDigits_digits]
    have hpower : ((others.length + 1 : Nat) : Int) - 1 + power - others.length = power := by omega
    simp only [number, place, hnumber, hdigits, List.length_cons, Option.getD_some, hpower]

end Shapes

/-- **The text of a decimal spells its value.** -/
theorem exists_spelling_decimalText (layout : Layout) {n : Nat} (hn : n ≠ 0) (power : Int) :
    ∃ spelling : Spelling, (decimalText layout n power).toList = spelling.chars ∧
      SpellsValue spelling n power := by
  have hlength := length_digits_pos n
  rw [decimalText, if_neg hn]
  split
  · rw [String.toList_ofList]
    split
    · next hpower =>
        have hspells := spellsValue_whole hn hpower
        exact ⟨_, by rw [chars_of_power_none hspells.lawful rfl], hspells⟩
    · next hpower =>
        split
        · next hplace =>
            have hspells := spellsValue_split hn (Int.not_le.mp hpower)
              (Nat.succ_pos ((digits n).length - 1 + power : Int).toNat) (by omega)
            exact ⟨_, by rw [chars_of_power_none hspells.lawful rfl], hspells⟩
        · next hplace =>
            have hspells := spellsValue_small (n := n) power
              (-((digits n).length - 1 + power) - 1 : Int).toNat (by omega)
            exact ⟨_, by rw [chars_of_power_none hspells.lawful rfl]; rfl, hspells⟩
  · obtain ⟨first, others, hfirst, _⟩ := head_digits_ne hn
    refine ⟨_, ?_, spellsValue_scientific power hfirst⟩
    rw [String.toList_append, String.toList_append, String.toList_ofList]
    cases others with
    | nil => simp [hfirst, chars, fractionText, powerText]
    | cons second others => simp [hfirst, chars, fractionText, powerText]

/-- A spelling begins with a digit. -/
theorem Lawful.exists_digit {spelling : Spelling} (h : spelling.Lawful) :
    ∃ c others, spelling.chars = c :: others ∧ c.isDigit = true := by
  obtain ⟨c, others, hwhole⟩ := List.exists_cons_of_ne_nil h.whole_ne_nil
  refine ⟨c, _, by rw [chars, hwhole, List.cons_append], h.whole_digits c ?_⟩
  rw [hwhole]
  exact List.mem_cons_self

theorem lawful_zero : (⟨['0'], ['0'], none⟩ : Spelling).Lawful := by
  constructor <;> simp

/-- The shortest text of a number spells a decimal that is read as the number. -/
theorem exists_spelling_shortest (layout : Layout) (negative : Bool) {mantissa : Nat}
    {exponent : Int} (hcanonical : IsCanonical mantissa exponent) :
    ∃ spelling : Spelling, spelling.Lawful ∧
      (decimalText layout (shortest mantissa exponent).1 (shortest mantissa exponent).2).toList =
        spelling.chars ∧
      Binary64.ofDecimal negative spelling.number spelling.place =
        .finite negative mantissa exponent := by
  rcases Nat.eq_zero_or_pos mantissa with rfl | hpos
  · have hexponent := hcanonical.full.resolve_left (by decide)
    subst hexponent
    refine ⟨_, lawful_zero, ?_, rfl⟩
    rw [shortest, if_pos rfl, decimalText, if_pos rfl, chars_of_power_none lawful_zero rfl]
    rfl
  · have hnumber : (shortest mantissa exponent).1 ≠ 0 := by
      intro hzero
      have hvalue := (readsAs_shortest hcanonical hpos).pos hpos
      rw [hzero, decimalValue, Nat.cast_zero, zero_mul] at hvalue
      exact lt_irrefl _ hvalue
    obtain ⟨spelling, hchars, hspells⟩ := exists_spelling_decimalText layout hnumber
      (shortest mantissa exponent).2
    exact ⟨spelling, hspells.lawful, hchars,
      ofDecimal_eq_of_shortest negative hcanonical hpos hspells.value⟩

end Spelling

/-! ## Numbers -/

section Numbers

variable {rest : List Char}

/-- The text of a sign. -/
def signText (negative : Bool) : List Char := if negative then ['-'] else []

/-- A text that begins like a number: a sign or none, then a digit. -/
def IsNumeral (text : List Char) : Prop :=
  ∃ negative c others, text = signText negative ++ c :: others ∧ c.isDigit = true

/-- The sign decides how the digits are read. -/
theorem number?_signText (negative : Bool) {text : List Char}
    (hdigit : ∃ c others, text = c :: others ∧ c.isDigit = true) :
    Reader.number? (signText negative ++ text) = Reader.unsigned? negative text := by
  obtain ⟨c, others, rfl, hc⟩ := hdigit
  cases negative with
  | true => rfl
  | false =>
      rw [Reader.number?.eq_def]
      split
      · next heq =>
          obtain rfl : c = '-' := (List.cons.inj heq).1
          exact absurd hc (by decide)
      · rfl

theorem text?_finite (layout : Layout) (negative : Bool) (mantissa : Nat) (exponent : Int) :
    ∃ text, (Binary64.finite negative mantissa exponent).text? layout = some text ∧
      text.toList = signText negative ++
        (decimalText layout (shortest mantissa exponent).1 (shortest mantissa exponent).2).toList := by
  rw [Binary64.text?]
  generalize shortest mantissa exponent = decimal
  refine ⟨_, rfl, ?_⟩
  cases negative with
  | true => simp [signText]
  | false => simp [signText]

/-- **A finite number is read back as itself.** -/
theorem number?_decimal (layout : Layout) {negative : Bool} {mantissa : Nat} {exponent : Int}
    (hcanonical : IsCanonical mantissa exponent) (hrest : EndsNumber rest) :
    ∃ text, (Binary64.finite negative mantissa exponent).text? layout = some text ∧
      IsNumeral text.toList ∧
      Reader.number? (text.toList ++ rest) =
        some (decimal (.finite negative mantissa exponent), rest) := by
  obtain ⟨spelling, hlawful, hchars, hvalue⟩ :=
    Spelling.exists_spelling_shortest layout negative hcanonical
  obtain ⟨c, others, hhead, hc⟩ := hlawful.exists_digit
  obtain ⟨text, htext, hlist⟩ := text?_finite layout negative mantissa exponent
  refine ⟨text, htext, ?_⟩
  rw [hlist, hchars]
  refine ⟨⟨negative, c, others, by rw [hhead], hc⟩, ?_⟩
  rw [List.append_assoc, number?_signText negative ⟨c, others ++ rest, by simp [hhead], hc⟩,
    Spelling.unsigned?_chars negative hlawful hrest, hvalue]

/-- Digits alone are read as an integer. -/
theorem unsigned?_digits (negative : Bool) (n : Nat) (hrest : EndsNumber rest) :
    Reader.unsigned? negative (digits n ++ rest) = some (Reader.ofInteger negative n, rest) := by
  have hwhole := whole?_append (digits_ne_nil n) (fun _ hc => isDigit_of_mem_digits hc)
    (digits_ne_zero_cons n) hrest.not_digit
  rw [Reader.unsigned?, hwhole]
  simp [hrest.fraction?, hrest.exponent?]

theorem exists_digit_digits (n : Nat) : ∃ c others, digits n = c :: others ∧ c.isDigit = true := by
  obtain ⟨c, others, heq⟩ := List.exists_cons_of_ne_nil (digits_ne_nil n)
  exact ⟨c, others, heq, isDigit_of_mem_digits (n := n) (by rw [heq]; exact List.mem_cons_self)⟩

theorem toList_intText (n : Int) :
    (intText n).toList = signText (n < 0) ++ digits n.natAbs := by
  cases n with
  | ofNat n => simp [intText, natText, signText]
  | negSucc n => simp [intText, natText, signText, Int.negSucc_lt_zero]

/-- **An integer of 64 bits is read back as itself.** -/
theorem number?_integer {n : Int} (hfits : fitsSigned n = true ∨ fitsUnsigned n = true)
    (hrest : EndsNumber rest) :
    IsNumeral (intText n).toList ∧
      Reader.number? ((intText n).toList ++ rest) = some (integer n, rest) := by
  obtain ⟨c, others, heq, hc⟩ := exists_digit_digits n.natAbs
  rw [toList_intText]
  refine ⟨⟨_, c, others, by rw [heq], hc⟩, ?_⟩
  rw [List.append_assoc, number?_signText _ ⟨c, others ++ rest, by simp [heq], hc⟩,
    unsigned?_digits _ _ hrest]
  have hvalue : (if decide (n < 0) = true then -(n.natAbs : Int) else n.natAbs) = n := by
    split <;> rename_i h <;> simp only [decide_eq_true_eq] at h <;> omega
  have hzero : ¬((decide (n < 0) && decide (n.natAbs = 0)) = true) := by
    simp only [Bool.and_eq_true, decide_eq_true_eq]
    omega
  rw [Reader.ofInteger, hvalue, if_neg hzero, if_pos (by simpa using hfits)]

end Numbers

end WorkflowGraph.Json
