import Mathlib.Algebra.GroupWithZero.Nat
import Mathlib.Data.List.Infix
import WorkflowGraph.Toml.Writer

/-!
# The layout of written documents

What a written document looks like is said here without a writer.  A string stands in the first of
four notations that suits it, that is, in which it needs no escape but for tabs; and if none does, it
stands between double quotes, with three of them if it has a line end (`Notated`).  Between double
quotes a character is itself or its escape, whichever the place asks for (`Spelled`).  A list of
strings with two or more items has a line for each; a section is its header and a line for each of its
entries; and an empty line divides sections.

The writer keeps to this layout: `writtenSections_render?`.
-/

namespace WorkflowGraph.Toml

/-! ## Strings -/

/-- The control characters. -/
def IsControl (c : Char) : Prop := c < ' ' ∨ c = '\x7f'

/-- The characters that stand for themselves between double quotes. -/
def StandsForItself (c : Char) : Prop := ¬IsControl c ∧ c ≠ '"' ∧ c ≠ '\\'

instance : DecidablePred IsControl := fun c => inferInstanceAs (Decidable (c < ' ' ∨ c = '\x7f'))

instance : DecidablePred StandsForItself := fun c =>
  inferInstanceAs (Decidable (¬IsControl c ∧ c ≠ '"' ∧ c ≠ '\\'))

/-- What stands for a character after a backslash. -/
inductive Escapes : Char → List Char → Prop
  | quote : Escapes '"' ['"']
  | backslash : Escapes '\\' ['\\']
  | backspace : Escapes '\x08' ['b']
  | tab : Escapes '\t' ['t']
  | lineEnd : Escapes '\n' ['n']
  | formFeed : Escapes '\x0c' ['f']
  | carriageReturn : Escapes '\r' ['r']
  | control {c : Char} (h : IsControl c) (hnone : c ∉ ['\x08', '\t', '\n', '\x0c', '\r']) :
      Escapes c ['u', '0', '0', upperHex (c.toNat / 16), upperHex (c.toNat % 16)]

/-- How a text stands between double quotes, on one line or on several.  A line end is itself only on
several lines, and so are up to two quotes in a row: `row` counts the quotes just before. -/
inductive Spelled (lines : Bool) : Nat → List Char → List Char → Prop
  | done {row : Nat} : Spelled lines row [] []
  | itself {row : Nat} {c : Char} {text written : List Char} (h : StandsForItself c)
      (hrest : Spelled lines 0 text written) : Spelled lines row (c :: text) (c :: written)
  | lineEnd {row : Nat} {text written : List Char} (h : lines = true)
      (hrest : Spelled lines 0 text written) : Spelled lines row ('\n' :: text) ('\n' :: written)
  | quote {row : Nat} {text written : List Char} (h : lines = true) (hrow : row < 2)
      (hrest : Spelled lines (row + 1) text written) :
      Spelled lines row ('"' :: text) ('"' :: written)
  | escape {row : Nat} {c : Char} {tail text written : List Char} (h : Escapes c tail)
      (hquote : lines = true → row < 2 → c ≠ '"') (hlineEnd : lines = true → c ≠ '\n')
      (hrest : Spelled lines 0 text written) :
      Spelled lines row (c :: text) ('\\' :: tail ++ written)

/-- A text suits a notation if it needs no escape there, but for tabs between double quotes. -/
def Quoting.Suits (text : List Char) : Quoting → Prop
  | .basic => ∀ c ∈ text, StandsForItself c ∨ c = '\t'
  | .literal => ∀ c ∈ text, (¬IsControl c ∨ c = '\t') ∧ c ≠ '\''
  | .basicLines =>
    (∀ c ∈ text, StandsForItself c ∨ c = '\t' ∨ c = '\n' ∨ c = '"') ∧
      ¬List.replicate 3 '"' <:+: text
  | .literalLines =>
    (∀ c ∈ text, ¬IsControl c ∨ c = '\t' ∨ c = '\n') ∧ ¬List.replicate 3 '\'' <:+: text

/-- The order in which notations are preferred. -/
def Quoting.rank : Quoting → Nat
  | .basic => 0
  | .literal => 1
  | .basicLines => 2
  | .literalLines => 3

/-- The notation of a text: the first that suits it, or double quotes if none does. -/
inductive Notated (text : List Char) : Quoting → Prop
  | suited {quoting : Quoting} (h : quoting.Suits text)
      (hfirst : ∀ other : Quoting, other.rank < quoting.rank → ¬other.Suits text) :
      Notated text quoting
  | lines (hnone : ∀ quoting : Quoting, ¬quoting.Suits text) (h : '\n' ∈ text) :
      Notated text .basicLines
  | line (hnone : ∀ quoting : Quoting, ¬quoting.Suits text) (h : '\n' ∉ text) :
      Notated text .basic

/-- The line end after three quotes, which a text with line ends has. -/
def Opens (text lead : List Char) : Prop :=
  '\n' ∈ text ∧ lead = ['\n'] ∨ '\n' ∉ text ∧ lead = []

/-- How a string is written. -/
inductive WrittenString (text : List Char) : List Char → Prop
  | basic {body : List Char} (h : Notated text .basic) (hbody : Spelled false 0 text body) :
      WrittenString text (['"'] ++ body ++ ['"'])
  | literal (h : Notated text .literal) : WrittenString text (['\''] ++ text ++ ['\''])
  | basicLines {lead body : List Char} (h : Notated text .basicLines) (hlead : Opens text lead)
      (hbody : Spelled true 0 text body) :
      WrittenString text (['"', '"', '"'] ++ lead ++ body ++ ['"', '"', '"'])
  | literalLines {lead : List Char} (h : Notated text .literalLines) (hlead : Opens text lead) :
      WrittenString text (['\'', '\'', '\''] ++ lead ++ text ++ ['\'', '\'', '\''])

theorem WrittenString.exists_cons {text written : List Char} (h : WrittenString text written) :
    ∃ c more, written = c :: more ∧ (c = '"' ∨ c = '\'') := by
  cases h with
  | basic | basicLines => exact ⟨_, _, rfl, Or.inl rfl⟩
  | literal | literalLines => exact ⟨_, _, rfl, Or.inr rfl⟩

/-! ## The writer of strings -/

theorem isControl_iff {c : Char} : (c < ' ' || c = '\x7f') = true ↔ IsControl c := by
  simp [IsControl]

/-- A control character is written as its escape. -/
theorem escapes_controlEscape {c : Char} (h : IsControl c) :
    ∃ tail, controlEscape c = '\\' :: tail ∧ Escapes c tail := by
  unfold controlEscape
  split
  · next hc => exact ⟨_, rfl, hc ▸ .backspace⟩
  split
  · next hc => exact ⟨_, rfl, hc ▸ .tab⟩
  split
  · next hc => exact ⟨_, rfl, hc ▸ .lineEnd⟩
  split
  · next hc => exact ⟨_, rfl, hc ▸ .formFeed⟩
  split
  · next hc => exact ⟨_, rfl, hc ▸ .carriageReturn⟩
  · next hb ht hn hf hr => exact ⟨_, rfl, .control h (by simp [hb, ht, hn, hf, hr])⟩

/-- **Text with escapes is spelled** as the place asks for. -/
theorem spelled_escaped (lines : Bool) (row : Nat) (text : List Char) :
    Spelled lines row text (escaped lines row text) := by
  induction text generalizing row with
  | nil => exact .done
  | cons c text ih =>
      rw [escaped]
      split
      · next hquote =>
          subst hquote
          split
          · next hrow =>
              rw [Bool.and_eq_true, decide_eq_true_eq] at hrow
              exact .quote hrow.1 hrow.2 (ih (row + 1))
          · next hrow =>
              refine .escape .quote ?_ (fun _ => by decide) (ih 0)
              intro hlines hless
              simp [hlines, hless] at hrow
      · next hquote =>
          split
          · next hslash =>
              subst hslash
              exact .escape .backslash (fun _ _ => hquote) (fun _ => by decide) (ih 0)
          · next hslash =>
              split
              · next hline =>
                  rw [Bool.and_eq_true, decide_eq_true_eq] at hline
                  rw [hline.1]
                  exact .lineEnd hline.2 (ih 0)
              · next hline =>
                  split
                  · next hcontrol =>
                      obtain ⟨tail, htail, hescapes⟩ :=
                        escapes_controlEscape (isControl_iff.mp hcontrol)
                      rw [htail]
                      refine .escape hescapes (fun _ _ => hquote) ?_ (ih 0)
                      intro hlines hnewline
                      simp [hlines, hnewline] at hline
                  · next hcontrol =>
                      rw [isControl_iff] at hcontrol
                      exact .itself ⟨hcontrol, hquote, hslash⟩ (ih 0)

/-- What does not hold the character between two parts is within one of them. -/
theorem infix_append_cons {piece front back : List Char} {c : Char} (hc : c ∉ piece)
    (h : piece <:+: front ++ c :: back) : piece <:+: front ∨ piece <:+: back := by
  obtain ⟨before, after, heq⟩ := h
  rw [List.append_assoc] at heq
  rcases List.append_eq_append_iff.mp heq with ⟨gap, hfront, hrest⟩ | ⟨gap, hbefore, hrest⟩
  · -- the piece begins before the character
    rcases List.append_eq_append_iff.mp hrest with ⟨more, hgap, _⟩ | ⟨more, hpiece, hback⟩
    · exact Or.inl ⟨before, more, by rw [hfront, hgap, List.append_assoc]⟩
    · cases more with
      | nil => exact Or.inl ⟨before, [], by rw [hfront, hpiece]; simp⟩
      | cons d more =>
          obtain rfl : c = d := (List.cons.inj hback).1
          exact absurd (hpiece ▸ List.mem_append_right _ List.mem_cons_self) hc
  · cases gap with
    | nil =>
        cases piece with
        | nil => exact Or.inl ⟨front, [], by simp⟩
        | cons d piece =>
            obtain rfl : c = d := (List.cons.inj hrest).1
            exact absurd List.mem_cons_self hc
    | cons d gap =>
        have hback : back = gap ++ (piece ++ after) := (List.cons.inj hrest).2
        exact Or.inr ⟨gap, after, by rw [hback, List.append_assoc]⟩

/-- The longest row, with a row before the text that counts too. -/
theorem le_longestRowFrom_iff {mark : Char} {row longest : Nat} (hrow : row ≤ longest)
    (text : List Char) (count : Nat) :
    count ≤ longestRowFrom mark row longest text ↔
      count ≤ longest ∨ List.replicate count mark <:+: List.replicate row mark ++ text := by
  induction text generalizing row longest with
  | nil =>
      rw [longestRowFrom, List.append_nil]
      refine (or_iff_left_of_imp ?_).symm
      intro h
      have hlength := h.length_le
      rw [List.length_replicate, List.length_replicate] at hlength
      omega
  | cons c text ih =>
      rw [longestRowFrom]
      split
      · next hc =>
          subst hc
          have happend : List.replicate row c ++ c :: text = List.replicate (row + 1) c ++ text := by
            rw [List.replicate_succ', List.append_assoc, List.singleton_append]
          rw [ih (Nat.le_max_right _ _), happend]
          constructor
          · intro h
            rcases h with hmax | hthere
            · by_cases hcount : count ≤ longest
              · exact Or.inl hcount
              · have hle : count ≤ row + 1 := by omega
                refine Or.inr ⟨[], List.replicate (row + 1 - count) c ++ text, ?_⟩
                rw [List.nil_append, ← List.append_assoc, List.replicate_append_replicate,
                  Nat.add_sub_cancel' hle]
            · exact Or.inr hthere
          · intro h
            rcases h with hcount | hthere
            · exact Or.inl (Nat.le_trans hcount (Nat.le_max_left _ _))
            · exact Or.inr hthere
      · next hc =>
          rw [ih (Nat.zero_le _), List.replicate_zero, List.nil_append]
          have hnot : c ∉ List.replicate count mark := fun h => hc (List.eq_of_mem_replicate h)
          constructor
          · intro h
            rcases h with hcount | hthere
            · exact Or.inl hcount
            · exact Or.inr (hthere.trans ⟨List.replicate row mark ++ [c], [], by simp⟩)
          · intro h
            rcases h with hcount | hthere
            · exact Or.inl hcount
            · rcases infix_append_cons hnot hthere with hbefore | hafter
              · have hlength := hbefore.length_le
                rw [List.length_replicate, List.length_replicate] at hlength
                exact Or.inl (hlength.trans hrow)
              · exact Or.inr hafter

/-- The longest row is shorter than a count if no row of that count is in the text. -/
theorem longestRow_lt_iff {mark : Char} {count : Nat} (hcount : 0 < count) (text : List Char) :
    longestRow mark text < count ↔ ¬List.replicate count mark <:+: text := by
  have hrow : count ≤ longestRowFrom mark 0 0 text ↔ _ :=
    le_longestRowFrom_iff (Nat.le_refl 0) text count
  rw [List.replicate_zero, List.nil_append] at hrow
  rw [longestRow, ← Nat.not_le, hrow, or_iff_right (Nat.not_le.mpr hcount)]

theorem longestRow_eq_zero_iff {mark : Char} {text : List Char} :
    longestRow mark text = 0 ↔ mark ∉ text := by
  rw [← Nat.lt_one_iff, longestRow_lt_iff Nat.one_pos, List.replicate_one,
    List.singleton_infix_iff]

theorem longestRow_le_two_iff {mark : Char} {text : List Char} :
    longestRow mark text ≤ 2 ↔ ¬List.replicate 3 mark <:+: text :=
  Nat.lt_succ_iff.symm.trans (longestRow_lt_iff (by decide) text)

theorem needsEscape_eq_false_iff {c : Char} :
    needsEscape c = false ↔ ¬IsControl c ∨ c = '\t' ∨ c = '\n' := by
  have htab : needsEscape '\t' = false := by decide
  have hline : needsEscape '\n' = false := by decide
  by_cases hc : c = '\t' ∨ c = '\n'
  · refine iff_of_true ?_ (Or.inr hc)
    rcases hc with rfl | rfl
    · exact htab
    · exact hline
  · rw [or_iff_left hc, ← isControl_iff, Bool.not_eq_true]
    rw [not_or] at hc
    simp [needsEscape, hc.1, hc.2]

/-- Only control characters that are neither tabs nor line ends always need an escape. -/
theorem any_needsEscape_eq_false_iff {text : List Char} :
    text.any needsEscape = false ↔ ∀ c ∈ text, ¬IsControl c ∨ c = '\t' ∨ c = '\n' := by
  rw [List.any_eq_false]
  refine forall₂_congr fun c _ => ?_
  rw [Bool.not_eq_true, needsEscape_eq_false_iff]

theorem suits_basic_iff {text : List Char} :
    Quoting.basic.Suits text ↔ text.any needsEscape = false ∧ '\\' ∉ text ∧
      longestRow '"' text = 0 ∧ '\n' ∉ text := by
  rw [any_needsEscape_eq_false_iff, longestRow_eq_zero_iff, Quoting.Suits]
  constructor
  · intro h
    refine ⟨?_, fun hmem => ?_, fun hmem => ?_, fun hmem => ?_⟩
    · intro c hc
      exact (h c hc).imp (fun hself => hself.1) Or.inl
    all_goals exact absurd (h _ hmem) (by decide)
  · intro ⟨hescape, hslash, hquote, hline⟩ c hc
    rcases hescape c hc with hcontrol | rfl | rfl
    · refine Or.inl ⟨hcontrol, ?_, ?_⟩
      · exact fun heq => hquote (heq ▸ hc)
      · exact fun heq => hslash (heq ▸ hc)
    · exact Or.inr rfl
    · exact absurd hc hline

theorem suits_literal_iff {text : List Char} :
    Quoting.literal.Suits text ↔
      text.any needsEscape = false ∧ longestRow '\'' text = 0 ∧ '\n' ∉ text := by
  rw [any_needsEscape_eq_false_iff, longestRow_eq_zero_iff, Quoting.Suits]
  constructor
  · intro h
    refine ⟨?_, fun hmem => (h _ hmem).2 rfl, fun hmem => ?_⟩
    · intro c hc
      exact (h c hc).1.imp id Or.inl
    · exact absurd (h _ hmem).1 (by decide)
  · intro ⟨hescape, hquote, hline⟩ c hc
    refine ⟨?_, fun heq => hquote (heq ▸ hc)⟩
    rcases hescape c hc with hcontrol | rfl | rfl
    · exact Or.inl hcontrol
    · exact Or.inr rfl
    · exact absurd hc hline

theorem suits_basicLines_iff {text : List Char} :
    Quoting.basicLines.Suits text ↔
      text.any needsEscape = false ∧ '\\' ∉ text ∧ longestRow '"' text ≤ 2 := by
  rw [any_needsEscape_eq_false_iff, longestRow_le_two_iff, Quoting.Suits, ← and_assoc]
  refine and_congr_left fun _ => ?_
  constructor
  · intro h
    refine ⟨?_, fun hmem => absurd (h _ hmem) (by decide)⟩
    intro c hc
    rcases h c hc with hself | rfl | rfl | rfl
    · exact Or.inl hself.1
    all_goals decide
  · intro ⟨hescape, hslash⟩ c hc
    by_cases hquote : c = '"'
    · exact Or.inr (Or.inr (Or.inr hquote))
    · rcases hescape c hc with hcontrol | htab | hline
      · exact Or.inl ⟨hcontrol, hquote, fun heq => hslash (heq ▸ hc)⟩
      · exact Or.inr (Or.inl htab)
      · exact Or.inr (Or.inr (Or.inl hline))

theorem suits_literalLines_iff {text : List Char} :
    Quoting.literalLines.Suits text ↔
      text.any needsEscape = false ∧ longestRow '\'' text ≤ 2 := by
  rw [any_needsEscape_eq_false_iff, longestRow_le_two_iff, Quoting.Suits]

/-- The notation that is chosen is the one that the layout asks for. -/
theorem notated_quotingOf (text : List Char) : Notated text (quotingOf text) := by
  unfold quotingOf
  simp only [Bool.and_eq_true, Bool.not_eq_true', decide_eq_true_eq, List.contains_eq_mem,
    decide_eq_false_iff_not, and_assoc]
  split
  · next hbasic =>
      exact .suited (suits_basic_iff.mpr hbasic) fun other hrank => absurd hrank (Nat.not_lt_zero _)
  · next hbasic =>
      rw [← suits_basic_iff] at hbasic
      split
      · next hliteral =>
          refine .suited (suits_literal_iff.mpr hliteral) fun other hrank => ?_
          cases other with
          | basic => exact hbasic
          | literal | basicLines | literalLines => exact absurd hrank (by decide)
      · next hliteral =>
          rw [← suits_literal_iff] at hliteral
          split
          · next hlines =>
              refine .suited (suits_basicLines_iff.mpr hlines) fun other hrank => ?_
              cases other with
              | basic => exact hbasic
              | literal => exact hliteral
              | basicLines | literalLines => exact absurd hrank (by decide)
          · next hlines =>
              rw [← suits_basicLines_iff] at hlines
              split
              · next hliterals =>
                  refine .suited (suits_literalLines_iff.mpr hliterals) fun other hrank => ?_
                  cases other with
                  | basic => exact hbasic
                  | literal => exact hliteral
                  | basicLines => exact hlines
                  | literalLines => exact absurd hrank (by decide)
              · next hliterals =>
                  rw [← suits_literalLines_iff] at hliterals
                  have hnone : ∀ quoting : Quoting, ¬quoting.Suits text := by
                    intro quoting
                    cases quoting with
                    | basic => exact hbasic
                    | literal => exact hliteral
                    | basicLines => exact hlines
                    | literalLines => exact hliterals
                  split
                  · next hnewline => exact .lines hnone hnewline
                  · next hnewline => exact .line hnone hnewline

theorem opens_leadingNewline (text : List Char) : Opens text (leadingNewline text) := by
  unfold leadingNewline Opens
  rw [List.contains_eq_mem]
  split
  · next h => exact Or.inl ⟨by simpa using h, rfl⟩
  · next h => exact Or.inr ⟨by simpa using h, rfl⟩

/-- **A string is written** in its notation. -/
theorem writtenString_stringChars (text : List Char) : WrittenString text (stringChars text) := by
  have hform := notated_quotingOf text
  unfold stringChars
  split
  · next h => exact .basic (h ▸ hform) (spelled_escaped false 0 text)
  · next h => exact .literal (h ▸ hform)
  · next h =>
      exact .basicLines (h ▸ hform) (opens_leadingNewline text) (spelled_escaped true 0 text)
  · next h => exact .literalLines (h ▸ hform) (opens_leadingNewline text)

/-! ## Sections -/

/-- The lines of a list of strings, one for each. -/
inductive WrittenItems : List String → List Char → Prop
  | nil : WrittenItems [] []
  | cons {value : String} {values : List String} {written rest : List Char}
      (h : WrittenString value.toList written) (hrest : WrittenItems values rest) :
      WrittenItems (value :: values) ([' ', ' ', ' ', ' '] ++ written ++ [',', '\n'] ++ rest)

/-- How a value is written.  An integer has at most 63 bits. -/
inductive WrittenSetting : Setting → List Char → Prop
  | text {value : String} {written : List Char} (h : WrittenString value.toList written) :
      WrittenSetting (.text value) written
  | natural {value : Nat} (h : value < 2 ^ 63) :
      WrittenSetting (.natural value) (Number.digits value)
  | yes : WrittenSetting (.flag true) ['t', 'r', 'u', 'e']
  | no : WrittenSetting (.flag false) ['f', 'a', 'l', 's', 'e']
  | noTexts : WrittenSetting (.texts []) ['[', ']']
  | oneText {value : String} {written : List Char} (h : WrittenString value.toList written) :
      WrittenSetting (.texts [value]) (['['] ++ written ++ [']'])
  | moreTexts {first second : String} {others : List String} {written : List Char}
      (h : WrittenItems (first :: second :: others) written) :
      WrittenSetting (.texts (first :: second :: others)) (['[', '\n'] ++ written ++ [']'])

/-- The lines of entries: key, equals sign and value. -/
inductive WrittenEntries : List (String × Setting) → List Char → Prop
  | nil : WrittenEntries [] []
  | cons {key : String} {value : Setting} {entries : List (String × Setting)}
      {written rest : List Char} (h : WrittenSetting value written)
      (hrest : WrittenEntries entries rest) :
      WrittenEntries ((key, value) :: entries)
        (key.toList ++ [' ', '=', ' '] ++ written ++ ['\n'] ++ rest)

/-- A section: the line of its header, and its entries. -/
inductive WrittenSection : Section → List Char → Prop
  | mk {block : Section} {written : List Char} (h : WrittenEntries block.entries written) :
      WrittenSection block (['['] ++ block.name.toList ++ [']', '\n'] ++ written)

/-- A document: its sections with an empty line between them. -/
inductive WrittenSections : List Section → List Char → Prop
  | none : WrittenSections [] []
  | last {block : Section} {written : List Char} (h : WrittenSection block written) :
      WrittenSections [block] written
  | more {block next : Section} {blocks : List Section} {written rest : List Char}
      (h : WrittenSection block written) (hrest : WrittenSections (next :: blocks) rest) :
      WrittenSections (block :: next :: blocks) (written ++ ['\n'] ++ rest)

/-! ## The writer of sections -/

theorem writtenString_stringText (value : String) :
    WrittenString value.toList (stringText value).toList := by
  rw [stringText, String.toList_ofList]
  exact writtenString_stringChars value.toList

theorem writtenItems_join (values : List String) :
    WrittenItems values
      (String.join (values.map fun value => "    " ++ stringText value ++ ",\n")).toList := by
  induction values with
  | nil => exact .nil
  | cons value values ih =>
      have hcons := WrittenItems.cons (writtenString_stringText value) ih
      simpa [String.join_cons] using hcons

/-- The naturals among the integers with a sign are those of 63 bits. -/
theorem fitsSigned_natCast_iff {n : Nat} : Number.fitsSigned n = true ↔ n < 2 ^ 63 := by
  simp only [Number.fitsSigned, Bool.and_eq_true, decide_eq_true_eq]
  omega

theorem isWritable_natural_iff {value : Nat} :
    (Setting.natural value).isWritable = true ↔ value < 2 ^ 63 := by
  rw [Setting.isWritable, fitsSigned_natCast_iff]

theorem writtenSetting_render {value : Setting} (h : value.isWritable = true) :
    WrittenSetting value value.render.toList := by
  cases value with
  | text value => exact .text (writtenString_stringText value)
  | natural value =>
      rw [Setting.render, Number.natText, String.toList_ofList]
      exact .natural (isWritable_natural_iff.mp h)
  | flag value =>
      cases value with
      | true => exact .yes
      | false => exact .no
  | texts values =>
      match values with
      | [] => exact .noTexts
      | [value] =>
          simpa [Setting.render] using WrittenSetting.oneText (writtenString_stringText value)
      | first :: second :: others =>
          simpa [Setting.render] using WrittenSetting.moreTexts (writtenItems_join _)

theorem writtenEntries_join {entries : List (String × Setting)}
    (h : ∀ entry ∈ entries, entry.2.isWritable = true) :
    WrittenEntries entries
      (String.join
        (entries.map fun entry => entry.1 ++ " = " ++ entry.2.render ++ "\n")).toList := by
  induction entries with
  | nil => exact .nil
  | cons entry entries ih =>
      have hfirst := writtenSetting_render (h entry List.mem_cons_self)
      have hrest := ih fun other hother => h other (List.mem_cons_of_mem _ hother)
      have hcons : WrittenEntries ((entry.1, entry.2) :: entries) _ := .cons hfirst hrest
      simpa [String.join_cons] using hcons

theorem writtenSection_render {block : Section}
    (h : ∀ entry ∈ block.entries, entry.2.isWritable = true) :
    WrittenSection block block.render.toList := by
  simpa [Section.render] using WrittenSection.mk (writtenEntries_join h)

theorem writtenSections_join {blocks : List Section}
    (h : ∀ block ∈ blocks, ∀ entry ∈ block.entries, entry.2.isWritable = true) :
    WrittenSections blocks (Text.joinWith "\n" (blocks.map Section.render)).toList := by
  induction blocks with
  | nil => exact .none
  | cons block blocks ih =>
      have hfirst := writtenSection_render (h block List.mem_cons_self)
      have hothers := ih fun other hother => h other (List.mem_cons_of_mem _ hother)
      cases blocks with
      | nil => exact .last hfirst
      | cons next blocks =>
          simpa [Text.joinWith] using WrittenSections.more hfirst hothers

/-- **A written document has the layout.** -/
theorem writtenSections_render? {blocks : List Section} {text : String}
    (h : render? blocks = some text) : WrittenSections blocks text.toList := by
  unfold render? at h
  split at h
  · next hall =>
      simp only [List.all_eq_true] at hall
      rw [← Option.some.inj h]
      exact writtenSections_join hall
  · cases h

end WorkflowGraph.Toml
