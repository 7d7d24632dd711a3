import WorkflowGraph.Go.Literal
import WorkflowGraph.Proofs.Digits

/-!
# Integer literals and their values

Go writes integers in four bases.  A decimal starts with no zero; after a zero stands the mark of a
base, and without a mark the digits are octal.  Single underscores may divide the digits.  `integer?`
gives such a text its value, and the texts that have one are those that the scanner measures as one
whole integer (`isSome_integer?_iff`).

A reader that knows decimal digits only takes a literal for a number if all its characters are digits.
If it is a decimal, the reader finds its value.  Of octal digits it makes a number that is too large,
except below eight (`IntegerLiteral.ofDigits_text`).
-/

namespace WorkflowGraph.Go

namespace Literal

/-! ## Values -/

/-- The bases of integer literals. -/
inductive Base where
  | binary
  | octal
  | decimal
  | hexadecimal

def Base.radix : Base → Nat
  | binary => 2
  | octal => 8
  | decimal => 10
  | hexadecimal => 16

def Base.isDigit : Base → Char → Bool
  | binary => isBinaryDigit
  | octal => isOctalDigit
  | decimal => Char.isDigit
  | hexadecimal => isHexDigit

/-- The marks that may stand after a zero in front of the digits. -/
def Base.marks : Base → List Char
  | binary => ['b', 'B']
  | octal => ['o', 'O']
  | decimal => []
  | hexadecimal => ['x', 'X']

/-- The number that a digit stands for; after nine come letters, small or capital. -/
def digitValue (c : Char) : Nat :=
  if c.isDigit then c.toNat - '0'.toNat
  else if 'a' ≤ c then c.toNat - 'a'.toNat + 10
  else c.toNat - 'A'.toNat + 10

namespace Base

variable (base : Base)

/-- The number after more digits, each of which a single underscore may precede. -/
def more? : Nat → List Char → Option Nat
  | n, '_' :: c :: rest =>
    if base.isDigit c then more? (base.radix * n + digitValue c) rest else none
  | n, c :: rest => if base.isDigit c then more? (base.radix * n + digitValue c) rest else none
  | n, [] => some n

/-- The number that digits with single underscores between them spell. -/
def number? : List Char → Option Nat
  | c :: rest => if base.isDigit c then base.more? (digitValue c) rest else none
  | [] => none

/-- As `number?`, for digits that a single underscore may precede. -/
def marked? : List Char → Option Nat
  | '_' :: rest => base.number? rest
  | rest => base.number? rest

end Base

/-- The value of an integer literal; a text that is none has no value. -/
def integer? : List Char → Option Nat
  | ['0'] => some 0
  | '0' :: mark :: rest =>
    if mark ∈ Base.hexadecimal.marks then Base.hexadecimal.marked? rest
    else if mark ∈ Base.binary.marks then Base.binary.marked? rest
    else if mark ∈ Base.octal.marks then Base.octal.marked? rest
    else Base.octal.marked? (mark :: rest)
  | text => Base.decimal.number? text

/-! ## Literals are what the scanner measures -/

namespace Base

variable {base : Base}

theorem isSome_more?_iff (n : Nat) (text : List Char) :
    (base.more? n text).isSome = true ↔ moreDigits base.isDigit text = text.length := by
  induction n, text using more?.induct base with
  | case1 n c rest hdigit ih => simp [more?, moreDigits, hdigit, ih]
  | case2 n c rest hdigit => simp [more?, moreDigits, hdigit]
  | case3 n c rest hother hdigit ih =>
      rw [more?, moreDigits, if_pos hdigit, if_pos hdigit, ih, List.length_cons]
      · omega
      · exact hother
      · exact hother
  | case4 n c rest hother hdigit =>
      rw [more?, moreDigits, if_neg hdigit, if_neg hdigit]
      · simp
      · exact hother
      · exact hother
  | case5 n => simp [more?, moreDigits]

theorem isSome_number?_iff (text : List Char) :
    (base.number? text).isSome = true ↔
      0 < digits base.isDigit text ∧ digits base.isDigit text = text.length := by
  cases text with
  | nil => simp [number?, digits]
  | cons c rest =>
      rw [number?, digits]
      by_cases hdigit : base.isDigit c = true
      · rw [if_pos hdigit, if_pos hdigit, isSome_more?_iff]
        simp
      · rw [if_neg hdigit, if_neg hdigit]
        simp

theorem isSome_marked?_iff (text : List Char) :
    (base.marked? text).isSome = true ↔
      0 < markedDigits base.isDigit text ∧ markedDigits base.isDigit text = text.length := by
  cases text with
  | nil => simp [marked?, number?, markedDigits, digits]
  | cons c rest =>
      by_cases hmark : c = '_'
      · subst hmark
        rw [marked?, markedDigits, isSome_number?_iff, List.length_cons]
        cases digits base.isDigit rest <;> simp
      · rw [marked?, markedDigits, isSome_number?_iff] <;> simp [hmark]

/-- After a mark the scanner needs digits; without them it takes the zero alone. -/
theorem int_of_mark {mark : Char} (hmark : mark ∈ base.marks) (rest : List Char) :
    int ('0' :: mark :: rest) =
      if markedDigits base.isDigit rest = 0 then 1 else markedDigits base.isDigit rest + 2 := by
  cases base with
  | decimal => cases hmark
  | _ =>
      simp only [marks, List.mem_cons, List.not_mem_nil, or_false] at hmark
      rcases hmark with rfl | rfl <;> simp [int, isDigit] <;> split <;> simp_all

theorem isSome_marked?_iff_int {mark : Char} (hmark : mark ∈ base.marks) (rest : List Char) :
    (base.marked? rest).isSome = true ↔
      0 < int ('0' :: mark :: rest) ∧ int ('0' :: mark :: rest) = rest.length + 2 := by
  rw [isSome_marked?_iff, int_of_mark hmark]
  split <;> omega

end Base

/-- **The integer literals are the texts that the scanner takes whole.** -/
theorem isSome_integer?_iff (text : List Char) :
    (integer? text).isSome = true ↔ 0 < int text ∧ int text = text.length := by
  unfold integer?
  split
  · simp [int, moreDigits]
  · next mark rest =>
      split
      · next hmark => exact Base.isSome_marked?_iff_int hmark rest
      · next hx =>
          split
          · next hmark => exact Base.isSome_marked?_iff_int hmark rest
          · next hb =>
              split
              · next hmark => exact Base.isSome_marked?_iff_int hmark rest
              · next ho =>
                  have hint : int ('0' :: mark :: rest) =
                      markedDigits Base.octal.isDigit (mark :: rest) + 1 := by
                    simp [Base.marks] at hx hb ho
                    simp [int, hx, hb, ho, Base.isDigit]
                  simp only [Base.isSome_marked?_iff, hint, List.length_cons]
                  omega
  · next hzero hmark =>
      rw [Base.isSome_number?_iff]
      cases text with
      | nil => simp [digits, int]
      | cons c rest =>
          rw [digits, int]
          · rfl
          · rintro mark others rfl rfl
            exact hmark mark others rfl

example : integer? ['0', 'x', '_', '1', 'F'] = some 31 ∧ integer? ['1', '_', '0', '0'] = some 100 ∧
    integer? ['0', '1', '7'] = some 15 ∧ integer? ['0', '8'] = none := by decide

/-! ## Literals that are digits only -/

theorem digitValue_of_isDigit {c : Char} (h : c.isDigit = true) :
    digitValue c = c.toNat - '0'.toNat := by
  rw [digitValue, if_pos h]

theorem lt_eight_of_isOctalDigit {c : Char} (h : isOctalDigit c = true) :
    c.toNat - '0'.toNat < 8 := by
  have hseven : c.toNat ≤ '7'.toNat := by
    simp only [isOctalDigit, Bool.and_eq_true, decide_eq_true_eq] at h
    exact h.2
  have hvalues : '7'.toNat = 55 ∧ '0'.toNat = 48 := ⟨rfl, rfl⟩
  omega

/-- A digit is no underscore, so it is read by itself. -/
theorem Base.more?_of_isDigit {base : Base} {c : Char} (hc : c.isDigit = true) (n : Nat)
    (rest : List Char) :
    base.more? n (c :: rest) =
      if base.isDigit c then base.more? (base.radix * n + digitValue c) rest else none := by
  rw [more?]
  rintro _ _ rfl
  cases hc

theorem more?_decimal {text : List Char} (h : ∀ c ∈ text, c.isDigit = true) (n : Nat) :
    Base.decimal.more? n text =
      some (text.foldl (fun n c => 10 * n + (c.toNat - '0'.toNat)) n) := by
  induction text generalizing n with
  | nil => rfl
  | cons c text ih =>
      obtain ⟨hc, htext⟩ := List.forall_mem_cons.mp h
      rw [Base.more?_of_isDigit hc, Base.isDigit, if_pos hc, ih htext, digitValue_of_isDigit hc]
      rfl

/-- Decimal digits spell the number that they are read as. -/
theorem number?_decimal {text : List Char} (hne : text ≠ []) (h : ∀ c ∈ text, c.isDigit = true) :
    Base.decimal.number? text = some (Number.ofDigits text) := by
  obtain ⟨c, rest, rfl⟩ := List.exists_cons_of_ne_nil hne
  obtain ⟨hc, hrest⟩ := List.forall_mem_cons.mp h
  rw [Base.number?, Base.isDigit, if_pos hc, more?_decimal hrest, digitValue_of_isDigit hc,
    Number.ofDigits, List.foldl_cons, Nat.mul_zero, Nat.zero_add]

/-- Two numbers, of which the decimal one is never the smaller one, and larger from eight on, stay so
when the same digits are added to both. -/
theorem more?_octal {text : List Char} (h : ∀ c ∈ text, c.isDigit = true) {n d m : Nat}
    (hstart : n ≤ d ∧ (8 ≤ n ↔ n < d)) (hread : Base.octal.more? n text = some m) :
    m ≤ text.foldl (fun n c => 10 * n + (c.toNat - '0'.toNat)) d ∧
      (8 ≤ m ↔ m < text.foldl (fun n c => 10 * n + (c.toNat - '0'.toNat)) d) := by
  induction text generalizing n d with
  | nil =>
      obtain rfl : n = m := Option.some.inj hread
      exact hstart
  | cons c text ih =>
      obtain ⟨hc, htext⟩ := List.forall_mem_cons.mp h
      rw [Base.more?_of_isDigit hc] at hread
      split at hread
      · next hoctal =>
          have hdigit := lt_eight_of_isOctalDigit hoctal
          refine ih htext ?_ hread
          rw [digitValue_of_isDigit hc, Base.radix]
          dsimp only
          omega
      · cases hread

/-- **Digits that are read as octal ones and as decimal ones** give the same number below eight, and
from there on the decimal one is larger. -/
theorem number?_octal {text : List Char} (h : ∀ c ∈ text, c.isDigit = true) {m : Nat}
    (hread : Base.octal.number? text = some m) :
    m ≤ Number.ofDigits text ∧ (8 ≤ m ↔ m < Number.ofDigits text) := by
  cases text with
  | nil => cases hread
  | cons c rest =>
      obtain ⟨hc, hrest⟩ := List.forall_mem_cons.mp h
      rw [Base.number?] at hread
      split at hread
      · next hoctal =>
          have hdigit := lt_eight_of_isOctalDigit hoctal
          refine more?_octal hrest ?_ hread
          rw [digitValue_of_isDigit hc]
          dsimp only
          omega
      · cases hread

/-- Without a mark the digits after a zero are octal. -/
theorem integer?_of_bare {digit : Char} (hdigit : digit.isDigit = true) (rest : List Char) :
    integer? ('0' :: digit :: rest) = Base.octal.number? (digit :: rest) := by
  have hmark : ∀ base : Base, digit ∉ base.marks := by
    intro base hmem
    cases base with
    | decimal => cases hmem
    | _ =>
        simp only [Base.marks, List.mem_cons, List.not_mem_nil, or_false] at hmem
        rcases hmem with rfl | rfl <;> exact absurd hdigit (by decide)
  rw [integer?, if_neg (hmark _), if_neg (hmark _), if_neg (hmark _), Base.marked?]
  intro _ hunderscore
  cases hunderscore
  cases hdigit

/-- A text that has nothing after a zero at its front is decimal. -/
theorem integer?_of_not_bare {text : List Char} (h : ∀ mark rest, text ≠ '0' :: mark :: rest) :
    integer? text = Base.decimal.number? text := by
  unfold integer?
  split
  · rfl
  · next mark rest => exact absurd rfl (h mark rest)
  · rfl

/-! ## Characters -/

namespace Base

variable {base : Base} {text : List Char} {m : Nat}

theorem ne_space_of_isDigit {c : Char} (h : base.isDigit c = true) : ' ' ≠ c := by
  rintro rfl
  cases base <;> cases h

theorem space_notMem_of_more? {n : Nat} (h : base.more? n text = some m) : ' ' ∉ text := by
  induction n, text using more?.induct base with
  | case1 n c rest hdigit ih =>
      rw [more?, if_pos hdigit] at h
      simp [ne_space_of_isDigit hdigit, ih h]
  | case2 n c rest hdigit => simp [more?, hdigit] at h
  | case3 n c rest hother hdigit ih =>
      rw [more?, if_pos hdigit] at h
      · simp [ne_space_of_isDigit hdigit, ih h]
      · exact hother
  | case4 n c rest hother hdigit =>
      rw [more?, if_neg hdigit] at h
      · cases h
      · exact hother
  | case5 n => exact List.not_mem_nil

theorem space_notMem_of_number? (h : base.number? text = some m) : ' ' ∉ text := by
  cases text with
  | nil => exact List.not_mem_nil
  | cons c rest =>
      rw [number?] at h
      split at h
      · next hdigit => simp [ne_space_of_isDigit hdigit, space_notMem_of_more? h]
      · cases h

theorem space_notMem_of_marked? (h : base.marked? text = some m) : ' ' ∉ text := by
  unfold marked? at h
  split at h
  · exact List.not_mem_cons_of_ne_of_not_mem (by decide) (space_notMem_of_number? h)
  · exact space_notMem_of_number? h

end Base

end Literal

/-- An integer literal, with its value. -/
structure IntegerLiteral where
  text : List Char
  value : Nat
  reads : Literal.integer? text = some value

namespace IntegerLiteral

open Literal Literal.Base

variable (literal : IntegerLiteral)

/-- All characters are digits: there is no mark of a base and no underscore. -/
def IsPlain : Prop := ∀ c ∈ literal.text, c.isDigit = true

/-- A zero stands in front of the digits, so they are octal. -/
def IsBareOctal : Prop :=
  ∃ digit rest, literal.text = '0' :: digit :: rest ∧ digit.isDigit = true

/-- **A plain literal read as decimal digits** gives its value, unless it is octal and has a value
above seven; then it gives a larger number. -/
theorem ofDigits_text (hplain : literal.IsPlain) :
    literal.value ≤ Number.ofDigits literal.text ∧
      (literal.value < Number.ofDigits literal.text ↔ literal.IsBareOctal ∧ 8 ≤ literal.value) := by
  obtain ⟨text, value, hreads⟩ := literal
  simp only [IsPlain, IsBareOctal] at hplain ⊢
  by_cases hbare : ∃ digit rest, text = '0' :: digit :: rest
  · obtain ⟨digit, rest, rfl⟩ := hbare
    simp only [List.forall_mem_cons] at hplain
    obtain ⟨_, hdigit, hrest⟩ := hplain
    rw [integer?_of_bare hdigit] at hreads
    have hoctal := number?_octal (List.forall_mem_cons.mpr ⟨hdigit, hrest⟩) hreads
    have hzero : Number.ofDigits ('0' :: digit :: rest) = Number.ofDigits (digit :: rest) := rfl
    have hform : ∃ d r, '0' :: digit :: rest = '0' :: d :: r ∧ d.isDigit = true :=
      ⟨digit, rest, rfl, hdigit⟩
    rw [hzero]
    exact ⟨hoctal.1, hoctal.2.symm.trans (and_iff_right hform).symm⟩
  · have hne : text ≠ [] := by
      rintro rfl
      cases hreads
    have hdecimal := integer?_of_not_bare fun mark rest htext => hbare ⟨mark, rest, htext⟩
    rw [hdecimal, number?_decimal hne hplain] at hreads
    obtain rfl := Option.some.inj hreads
    simp only [le_refl, lt_irrefl, true_and, false_iff]
    rintro ⟨⟨digit, rest, htext, _⟩, _⟩
    exact hbare ⟨digit, rest, htext⟩

/-- A literal starts with a digit. -/
theorem exists_text_eq_cons : ∃ c rest, literal.text = c :: rest ∧ c.isDigit = true := by
  obtain ⟨text, value, hreads⟩ := literal
  cases text with
  | nil => cases hreads
  | cons c rest =>
      refine ⟨c, rest, rfl, ?_⟩
      by_cases hzero : c = '0'
      · rw [hzero]
        rfl
      · have hdecimal : integer? (c :: rest) = decimal.number? (c :: rest) :=
          integer?_of_not_bare fun mark others htext => hzero (List.cons.inj htext).1
        rw [hdecimal, number?] at hreads
        split at hreads
        · next hdigit => exact hdigit
        · cases hreads

/-- There are no spaces in a literal. -/
theorem space_notMem_text : ' ' ∉ literal.text := by
  obtain ⟨text, value, hreads⟩ := literal
  dsimp only
  unfold integer? at hreads
  split at hreads
  · decide
  · next mark rest =>
      have hmarked : ∀ base : Base, mark ∈ base.marks → base.marked? rest = some value →
          ' ' ∉ '0' :: mark :: rest := by
        intro base hmark hread
        have hspace : ' ' ≠ mark := by
          rintro rfl
          cases base <;> simp [marks] at hmark
        simp [hspace, space_notMem_of_marked? hread]
      split at hreads
      · next hmark => exact hmarked _ hmark hreads
      · split at hreads
        · next hmark => exact hmarked _ hmark hreads
        · split at hreads
          · next hmark => exact hmarked _ hmark hreads
          · exact List.not_mem_cons_of_ne_of_not_mem (by decide) (space_notMem_of_marked? hreads)
  · exact space_notMem_of_number? hreads

end IntegerLiteral

end WorkflowGraph.Go
