import WorkflowGraph.Proofs.TomlLayout
import WorkflowGraph.Toml.Reader

/-!
# Strings read back

A string that is written in any of the four notations is read back as its text, whatever comes next,
if only it is no quote (`string?_of_written`).  Each reader has one rule for each thing that can stand
in front of it, and the rules are put together along the layout.

On several lines quotes are the hard part: a reader takes a row of them at once, and whether they
belong to the string depends on how many there are.  So the rows are kept in front of the text that is
still to be read until something else comes, or the end (`reads_lines_marks`, `reads_lines_close`).
-/

namespace WorkflowGraph.Toml

namespace Reader

/-- A reader with a bound on its steps comes to a result, if the bound is above the length of the
input. -/
def Reads {α : Type} (reader : Nat → List Char → Option α) (input : List Char) (result : α) :
    Prop :=
  ∀ fuel, input.length < fuel → reader fuel input = some result

/-- A bound above a length is never zero. -/
theorem reads_of_succ {α : Type} {reader : Nat → List Char → Option α} {input : List Char}
    {result : α} (h : ∀ fuel, input.length ≤ fuel → reader (fuel + 1) input = some result) :
    Reads reader input result := by
  intro fuel hfuel
  obtain ⟨fuel, rfl⟩ : ∃ k, fuel = k + 1 := ⟨fuel - 1, by omega⟩
  exact h fuel (Nat.lt_succ_iff.mp hfuel)

/-! ## Characters -/

/-- Characters that a test tells apart are different. -/
theorem ne_of_test {test : Char → Bool} {c d : Char} (hc : test c = true) (hd : test d = false) :
    c ≠ d := by
  intro heq
  rw [heq, hd] at hc
  cases hc

theorem isPlain_iff {c : Char} : isPlain c = true ↔ ¬IsControl c ∨ c = '\t' := by
  simp only [isPlain, IsControl, Bool.or_eq_true, Bool.and_eq_true, decide_eq_true_eq, bne_iff_ne,
    not_or, Char.not_lt]
  exact or_comm

theorem newline?_cons {c : Char} (hline : c ≠ '\n') (hreturn : c ≠ '\r') (rest : List Char) :
    newline? (c :: rest) = none := by
  unfold newline?
  split
  · next heq => exact absurd (List.cons.inj heq).1 hline
  · next heq => exact absurd (List.cons.inj heq).1 hreturn
  · rfl

theorem newline?_of_isPlain {c : Char} (h : isPlain c = true) (rest : List Char) :
    newline? (c :: rest) = none :=
  newline?_cons (ne_of_test h rfl) (ne_of_test h rfl) rest

theorem hexValue?_upperHex : ∀ {n : Nat}, n < 16 → hexValue? (upperHex n) = some n := by decide

theorem toNat_lt_of_isControl {c : Char} (h : IsControl c) : c.toNat < 128 := by
  rcases h with h | rfl
  · have hlt : c.toNat < ' '.toNat := h
    exact hlt.trans (by decide)
  · decide

/-- An escape is read as what it stands for. -/
theorem escape?_of_escapes {c : Char} {tail : List Char} (h : Escapes c tail) (rest : List Char) :
    escape? (tail ++ rest) = some (c, rest) := by
  cases h with
  | quote | backslash | backspace | tab | lineEnd | formFeed | carriageReturn => rfl
  | control hcontrol _ =>
      have hlt := toNat_lt_of_isControl hcontrol
      have hhigh : hexValue? (upperHex (c.toNat / 16)) = some (c.toNat / 16) :=
        hexValue?_upperHex (by omega)
      have hlow : hexValue? (upperHex (c.toNat % 16)) = some (c.toNat % 16) :=
        hexValue?_upperHex (Nat.mod_lt _ (by decide))
      have hzero : hexValue? '0' = some 0 := rfl
      have hsum : 16 * (c.toNat / 16) + c.toNat % 16 = c.toNat := Nat.div_add_mod _ _
      have hvalid : c.toNat.isValidChar := Or.inl (by omega)
      simp [escape?, codePoint?, hhigh, hlow, hzero, hsum, hvalid]

/-! ## On one line -/

section OneLine

variable {input chars rest : List Char} {c : Char}

theorem reads_basic_close (rest : List Char) : Reads basic? ('"' :: rest) ([], rest) :=
  reads_of_succ fun _ _ => rfl

theorem reads_basic_plain (hself : StandsForItself c) (h : Reads basic? input (chars, rest)) :
    Reads basic? (c :: input) (c :: chars, rest) := by
  apply reads_of_succ
  intro fuel hfuel
  have hplain : isPlain c = true := isPlain_iff.mpr (Or.inl hself.1)
  simp [basic?, hself.2.1, hself.2.2, hplain, h fuel hfuel]

theorem reads_basic_escape {tail : List Char} (hescapes : Escapes c tail)
    (h : Reads basic? input (chars, rest)) :
    Reads basic? ('\\' :: tail ++ input) (c :: chars, rest) := by
  apply reads_of_succ
  intro fuel hfuel
  have hless : input.length < fuel := by
    rw [List.length_append, List.length_cons] at hfuel
    omega
  simp [basic?, escape?_of_escapes hescapes, h fuel hless]

/-- Text between double quotes on one line is read back. -/
theorem reads_basic_of_spelled {row : Nat} {text written : List Char}
    (h : Spelled false row text written) (rest : List Char) :
    Reads basic? (written ++ '"' :: rest) (text, rest) := by
  induction h with
  | done => exact reads_basic_close rest
  | itself hself _ ih => exact reads_basic_plain hself ih
  | lineEnd hlines | quote hlines => cases hlines
  | escape hescapes _ _ _ ih =>
      rw [List.append_assoc]
      exact reads_basic_escape hescapes ih

/-- Text between single quotes on one line is read back. -/
theorem literal?_append {text : List Char} (h : Quoting.literal.Suits text) (rest : List Char) :
    literal? (text ++ '\'' :: rest) = some (text, rest) := by
  have hspan : (text ++ '\'' :: rest).span (fun c => isPlain c && c != '\'') =
      (text, '\'' :: rest) := by
    rw [List.span_eq_takeWhile_dropWhile, List.takeWhile_append_of_pos, List.dropWhile_append_of_pos]
    · simp
    all_goals
      intro c hc
      simp [isPlain_iff.mpr (h c hc).1, (h c hc).2]
  simp only [literal?, hspan]

end OneLine

/-! ## On several lines -/

section Lines

variable {mark : Char} {escapes : Bool} {input chars rest : List Char} {c : Char} {row : Nat}

/-- A row of marks is counted up to the first other character. -/
theorem length_takeWhile_replicate (hinput : input.head? ≠ some mark) (row : Nat) :
    ((List.replicate row mark ++ input).takeWhile (· = mark)).length = row := by
  have hnone : input.takeWhile (· = mark) = [] := by
    cases input with
    | nil => rfl
    | cons c input => exact List.takeWhile_cons_of_neg (by simpa using hinput)
  rw [List.takeWhile_append_of_pos, hnone, List.append_nil, List.length_replicate]
  intro c hc
  simpa using List.eq_of_mem_replicate hc

/-- Up to two marks belong to the string. -/
theorem quotes_replicate (hrow : row ≤ 2) (hinput : input.head? ≠ some mark) :
    quotes mark (List.replicate row mark ++ input) = (List.replicate row mark, false, input) := by
  rw [quotes, length_takeWhile_replicate hinput, if_pos (Nat.lt_succ_of_le hrow),
    List.drop_left' List.length_replicate]

/-- Three marks end the string, and up to two before them belong to it. -/
theorem quotes_replicate_add_three (hrow : row ≤ 2) (hinput : input.head? ≠ some mark) :
    quotes mark (List.replicate (row + 3) mark ++ input) =
      (List.replicate row mark, true, input) := by
  have hkept : min (row + 3 - 3) 2 = row := by omega
  simp only [quotes, length_takeWhile_replicate hinput, hkept]
  rw [if_neg (by omega), List.drop_left' List.length_replicate]

theorem reads_lines_close (hrow : row ≤ 2) (hrest : rest.head? ≠ some mark) :
    Reads (lines? mark escapes) (List.replicate row mark ++ [mark, mark, mark] ++ rest)
      (List.replicate row mark, rest) := by
  have hmarks : List.replicate row mark ++ List.replicate 3 mark = List.replicate (row + 3) mark :=
    List.replicate_append_replicate
  rw [show [mark, mark, mark] = List.replicate 3 mark from rfl, hmarks]
  apply reads_of_succ
  intro fuel _
  have hquotes : quotes mark (mark :: (List.replicate (row + 2) mark ++ rest)) =
      (List.replicate row mark, true, rest) := quotes_replicate_add_three hrow hrest
  rw [List.replicate_succ, List.cons_append, lines?, if_pos rfl, hquotes]

theorem reads_lines_marks (hrow : row ≤ 2) (hc : c ≠ mark)
    (h : Reads (lines? mark escapes) (c :: input) (chars, rest)) :
    Reads (lines? mark escapes) (List.replicate row mark ++ c :: input)
      (List.replicate row mark ++ chars, rest) := by
  cases row with
  | zero => exact h
  | succ row =>
      apply reads_of_succ
      intro fuel hfuel
      have hless : (c :: input).length < fuel := by
        rw [List.length_append, List.length_replicate] at hfuel
        omega
      have hquotes : quotes mark (mark :: (List.replicate row mark ++ c :: input)) =
          (List.replicate (row + 1) mark, false, c :: input) :=
        quotes_replicate hrow (by simpa using hc)
      rw [List.replicate_succ, List.cons_append, lines?, if_pos rfl, hquotes]
      simp [h fuel hless, List.replicate_succ]

theorem reads_lines_plain (hc : c ≠ mark) (hslash : escapes = true → c ≠ '\\')
    (hplain : isPlain c = true) (h : Reads (lines? mark escapes) input (chars, rest)) :
    Reads (lines? mark escapes) (c :: input) (c :: chars, rest) := by
  apply reads_of_succ
  intro fuel hfuel
  have hspecial : ¬(escapes && decide (c = '\\')) = true := by
    simpa using hslash
  rw [lines?, if_neg hc, if_neg hspecial, newline?_of_isPlain hplain, if_pos hplain, h fuel hfuel,
    Option.map_some]

theorem reads_lines_newline (hmark : '\n' ≠ mark)
    (h : Reads (lines? mark escapes) input (chars, rest)) :
    Reads (lines? mark escapes) ('\n' :: input) ('\n' :: chars, rest) := by
  apply reads_of_succ
  intro fuel hfuel
  simp [lines?, hmark, newline?, h fuel hfuel]

/-- No line ends after the backslash of an escape. -/
theorem skipBreak?_of_escapes {tail : List Char} (h : Escapes c tail) (rest : List Char) :
    skipBreak? (tail ++ rest) = none := by
  cases h with
  | quote | backslash | backspace | tab | lineEnd | formFeed | carriageReturn | control => rfl

theorem reads_lines_escape {tail : List Char} (hmark : '\\' ≠ mark) (hescapes : Escapes c tail)
    (h : Reads (lines? mark true) input (chars, rest)) :
    Reads (lines? mark true) ('\\' :: tail ++ input) (c :: chars, rest) := by
  apply reads_of_succ
  intro fuel hfuel
  have hless : input.length < fuel := by
    rw [List.length_append, List.length_cons] at hfuel
    omega
  simp [lines?, hmark, skipBreak?_of_escapes hescapes, escape?_of_escapes hescapes, h fuel hless]

/-- Text between three double quotes is read back.  The quotes just before the text are part of what
is read. -/
theorem reads_lines_of_spelled {text written : List Char} (h : Spelled true row text written)
    (hrow : row ≤ 2) (hrest : rest.head? ≠ some '"') :
    Reads (lines? '"' true) (List.replicate row '"' ++ written ++ ['"', '"', '"'] ++ rest)
      (List.replicate row '"' ++ text, rest) := by
  induction h with
  | done =>
      rw [List.append_nil]
      exact reads_lines_close hrow hrest
  | itself hself _ ih =>
      have hplain := isPlain_iff.mpr (Or.inl hself.1)
      simp only [List.append_assoc, List.cons_append]
      refine reads_lines_marks hrow hself.2.1 ?_
      refine reads_lines_plain hself.2.1 (fun _ => hself.2.2) hplain ?_
      simpa using ih (Nat.zero_le _)
  | lineEnd _ _ ih =>
      simp only [List.append_assoc, List.cons_append]
      refine reads_lines_marks hrow (by decide) (reads_lines_newline (by decide) ?_)
      simpa using ih (Nat.zero_le _)
  | quote _ hless _ ih =>
      have hone := ih hless
      rw [List.replicate_succ'] at hone
      simpa using hone
  | escape hescapes _ _ _ ih =>
      simp only [List.append_assoc, List.cons_append]
      refine reads_lines_marks hrow (by decide) (reads_lines_escape (by decide) hescapes ?_)
      simpa using ih (Nat.zero_le _)

/-- Where there are never three marks in a row, there are at most two in front. -/
theorem row_le_two {text : List Char}
    (h : ¬List.replicate 3 mark <:+: List.replicate row mark ++ text) : row ≤ 2 := by
  by_contra hmore
  obtain ⟨more, rfl⟩ : ∃ more, row = 3 + more := ⟨row - 3, by omega⟩
  refine h ⟨[], List.replicate more mark ++ text, ?_⟩
  rw [List.nil_append, ← List.append_assoc, List.replicate_append_replicate]

/-- Text between three single quotes is read back, with the quotes just before it. -/
theorem reads_lines_of_literal {text : List Char}
    (hchars : ∀ c ∈ text, ¬IsControl c ∨ c = '\t' ∨ c = '\n')
    (hrows : ¬List.replicate 3 '\'' <:+: List.replicate row '\'' ++ text)
    (hrest : rest.head? ≠ some '\'') :
    Reads (lines? '\'' false) (List.replicate row '\'' ++ text ++ ['\'', '\'', '\''] ++ rest)
      (List.replicate row '\'' ++ text, rest) := by
  induction text generalizing row with
  | nil =>
      have hrow := row_le_two hrows
      rw [List.append_nil]
      exact reads_lines_close hrow hrest
  | cons c text ih =>
      have hothers : ∀ d ∈ text, ¬IsControl d ∨ d = '\t' ∨ d = '\n' :=
        fun d hd => hchars d (List.mem_cons_of_mem _ hd)
      by_cases hquote : c = '\''
      · -- one quote more is waiting
        subst hquote
        have hmove : List.replicate row '\'' ++ '\'' :: text =
            List.replicate (row + 1) '\'' ++ text := by
          rw [List.replicate_succ', List.append_assoc, List.singleton_append]
        rw [hmove] at hrows ⊢
        exact ih hothers hrows
      · have hrow := row_le_two hrows
        have hnone : ¬List.replicate 3 '\'' <:+: List.replicate 0 '\'' ++ text := by
          intro hthere
          exact hrows (hthere.trans ⟨List.replicate row '\'' ++ [c], [], by simp⟩)
        have hread :
            Reads (lines? '\'' false) (text ++ (['\'', '\'', '\''] ++ rest)) (text, rest) := by
          simpa using ih hothers hnone
        simp only [List.append_assoc, List.cons_append]
        refine reads_lines_marks hrow hquote ?_
        by_cases hline : c = '\n'
        · subst hline
          exact reads_lines_newline (by decide) hread
        · have hplain : isPlain c = true := by
            refine isPlain_iff.mpr ((hchars c List.mem_cons_self).imp_right ?_)
            exact fun h => h.resolve_right hline
          exact reads_lines_plain hquote (fun h => nomatch h) hplain hread

end Lines

/-! ## In any notation -/

section Notations

variable {text input chars rest : List Char}

theorem string?_basic (h : Reads basic? input (chars, rest))
    (hthree : ∀ more, input ≠ '"' :: '"' :: more) :
    string? ('"' :: input) = some (String.ofList chars, rest) := by
  unfold string?
  split
  · next heq => exact absurd (List.cons.inj heq).2 (hthree _)
  · next heq => cases heq
  · next heq =>
      rw [← (List.cons.inj heq).2, h _ (Nat.lt_succ_self _), Option.map_some]
  · next heq => cases heq
  · next hnone _ => exact absurd rfl (hnone input)

theorem string?_literal (h : literal? input = some (chars, rest))
    (hthree : ∀ more, input ≠ '\'' :: '\'' :: more) :
    string? ('\'' :: input) = some (String.ofList chars, rest) := by
  unfold string?
  split
  · next heq => cases heq
  · next heq => exact absurd (List.cons.inj heq).2 (hthree _)
  · next heq => cases heq
  · next heq => rw [← (List.cons.inj heq).2, h, Option.map_some]
  · next hnone => exact absurd rfl (hnone input)

/-- The line end after three quotes is dropped, and nothing else. -/
theorem dropNewline_append {lead : List Char} (hlead : Opens text lead)
    (h : '\n' ∉ text → newline? input = none) : dropNewline (lead ++ input) = input := by
  rcases hlead with ⟨_, rfl⟩ | ⟨hline, rfl⟩
  · rfl
  · rw [List.nil_append, dropNewline, h hline, Option.getD_none]

/-- Three quotes of either kind start a string of several lines. -/
theorem string?_lines {mark : Char} {escapes : Bool} {lead : List Char}
    (hmark : mark = '"' ∧ escapes = true ∨ mark = '\'' ∧ escapes = false)
    (hdrop : dropNewline (lead ++ input) = input)
    (h : Reads (lines? mark escapes) input (chars, rest)) :
    string? (mark :: mark :: mark :: (lead ++ input)) = some (String.ofList chars, rest) := by
  have hless : input.length < (lead ++ input).length + 1 := by
    rw [List.length_append]
    omega
  rcases hmark with ⟨rfl, rfl⟩ | ⟨rfl, rfl⟩
  all_goals rw [string?, hdrop, h _ hless, Option.map_some]

theorem newline?_of_spelled {row : Nat} {written : List Char} (h : Spelled true row text written)
    (hline : '\n' ∉ text) (rest : List Char) : newline? (written ++ '"' :: rest) = none := by
  cases h with
  | done | quote | escape => rfl
  | itself hself => exact newline?_of_isPlain (isPlain_iff.mpr (Or.inl hself.1)) _
  | lineEnd => exact absurd List.mem_cons_self hline

theorem newline?_of_literal (hchars : ∀ c ∈ text, ¬IsControl c ∨ c = '\t' ∨ c = '\n')
    (hline : '\n' ∉ text) (rest : List Char) : newline? (text ++ '\'' :: rest) = none := by
  cases text with
  | nil => rfl
  | cons c text =>
      refine newline?_of_isPlain (isPlain_iff.mpr ((hchars c List.mem_cons_self).imp_right ?_)) _
      exact fun h => h.resolve_right fun heq => hline (heq ▸ List.mem_cons_self)

/-- A text on one line does not start with a quote. -/
theorem spelled_ne_quote {row : Nat} {written : List Char} (h : Spelled false row text written)
    (hrest : rest.head? ≠ some '"') (more : List Char) :
    written ++ '"' :: rest ≠ '"' :: '"' :: more := by
  intro heq
  cases h with
  | done =>
      rw [List.nil_append] at heq
      exact hrest (by rw [(List.cons.inj heq).2, List.head?_cons])
  | itself hself => exact hself.2.1 (List.cons.inj heq).1
  | lineEnd hlines | quote hlines => cases hlines
  | escape => cases heq

theorem literal_ne_quote (h : Quoting.literal.Suits text) (hrest : rest.head? ≠ some '\'')
    (more : List Char) : text ++ '\'' :: rest ≠ '\'' :: '\'' :: more := by
  intro heq
  cases text with
  | nil =>
      rw [List.nil_append] at heq
      exact hrest (by rw [(List.cons.inj heq).2, List.head?_cons])
  | cons c text => exact (h c List.mem_cons_self).2 (List.cons.inj heq).1

/-- **A written string is read back**, if no quote comes next. -/
theorem string?_of_written {written : List Char} (h : WrittenString text written)
    (hdouble : rest.head? ≠ some '"') (hsingle : rest.head? ≠ some '\'') :
    string? (written ++ rest) = some (String.ofList text, rest) := by
  cases h with
  | basic _ hbody =>
      simpa using string?_basic (reads_basic_of_spelled hbody rest) (spelled_ne_quote hbody hdouble)
  | literal hform =>
      cases hform with
      | suited hsuits =>
          simpa using string?_literal (literal?_append hsuits rest) (literal_ne_quote hsuits hsingle)
  | basicLines _ hlead hbody =>
      have hread := reads_lines_of_spelled hbody (Nat.zero_le 2) hdouble
      have hdrop := dropNewline_append hlead fun hline =>
        newline?_of_spelled hbody hline ('"' :: '"' :: rest)
      simpa using string?_lines (Or.inl ⟨rfl, rfl⟩) hdrop (by simpa using hread)
  | literalLines hform hlead =>
      cases hform with
      | suited hsuits =>
          have hread : Reads _ (List.replicate 0 '\'' ++ text ++ ['\'', '\'', '\''] ++ rest) _ :=
            reads_lines_of_literal hsuits.1 hsuits.2 hsingle
          have hdrop := dropNewline_append hlead fun hline =>
            newline?_of_literal hsuits.1 hline ('\'' :: '\'' :: rest)
          simpa using string?_lines (Or.inr ⟨rfl, rfl⟩) hdrop (by simpa using hread)

end Notations

end Reader

end WorkflowGraph.Toml
