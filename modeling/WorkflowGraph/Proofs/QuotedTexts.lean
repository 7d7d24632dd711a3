import Mathlib.Data.List.Induction
import WorkflowGraph.Go.Quoted

/-!
# Values of quoted texts undo escapes

The value of a text between double quotes is found by one pass that takes a backslash together with
the character after it.  Which backslash starts an escape therefore depends on what stands before it:
in a run of backslashes every second one is taken by the one before.

Escaping is specified by `encode`, which decoding undoes (`decode_encode`).

A text is `Whole` if no backslash at its end waits for another character; `whole_of_even` says that
this is so if it ends with an even number of them.  A whole text can be decoded by itself, whatever
follows (`decode_append`), and from this the value of a text is put together piece by piece.

Main statement: `value_undoes_escapes`.
-/

namespace WorkflowGraph.Go.Quoted

/-! ## Texts between quotes -/

/-- A text between double quotes. -/
def double (text : String) : String := "\"" ++ text ++ "\""

/-- A text between back quotes. -/
def back (text : String) : String := "\x60" ++ text ++ "\x60"

/-- Writes the four characters as escapes. -/
def encode : List Char → List Char
  | [] => []
  | c :: rest =>
    if c = '\n' then '\\' :: 'n' :: encode rest
    else if c = '\t' then '\\' :: 't' :: encode rest
    else if c = '"' then '\\' :: '"' :: encode rest
    else if c = '\\' then '\\' :: '\\' :: encode rest
    else c :: encode rest

/-- A text with its backslashes, double quotes, newlines and tabs written as escapes. -/
def escaped (text : String) : String := String.ofList (encode text.toList)

theorem inside?_of_quotes (quote : Char) (inner : List Char) :
    inside? quote (quote :: (inner ++ [quote])) = some inner := by
  rw [inside?, List.getLast?_concat, List.dropLast_concat]
  simp

theorem inside?_of_other {quote c : Char} (h : c ≠ quote) (rest : List Char) :
    inside? quote (c :: rest) = none := by
  rw [inside?, if_neg (by simp [h])]

theorem value_back (text : String) : value (back text) = text := by
  have hlist : (back text).toList = '\x60' :: (text.toList ++ ['\x60']) := by
    rw [back, String.toList_append, String.toList_append]
    rfl
  rw [value, hlist, inside?_of_quotes]
  exact String.ofList_toList

theorem value_double (text : String) :
    value (double text) = String.ofList (decode text.toList) := by
  have hlist : (double text).toList = '"' :: (text.toList ++ ['"']) := by
    rw [double, String.toList_append, String.toList_append]
    rfl
  rw [value, hlist, inside?_of_other (by decide), inside?_of_quotes]

/-! ## Whole texts -/

/-- A text of characters other than backslashes and of backslashes with the character after them. -/
inductive Whole : List Char → Prop
  | nil : Whole []
  | plain {c : Char} {rest : List Char} (hplain : c ≠ '\\') (hrest : Whole rest) :
      Whole (c :: rest)
  | escape {c : Char} {rest : List Char} (hrest : Whole rest) : Whole ('\\' :: c :: rest)

/-- What an escape stands for. -/
def ofEscape (c : Char) : List Char :=
  if c = 'n' then ['\n']
  else if c = 't' then ['\t']
  else if c = '"' then ['"']
  else if c = '\\' then ['\\']
  else ['\\', c]

theorem ofEscape_of_mem {c d : Char}
    (h : (c, d) ∈ [('n', '\n'), ('t', '\t'), ('"', '"'), ('\\', '\\')]) : ofEscape c = [d] := by
  simp only [List.mem_cons, Prod.mk.injEq, List.not_mem_nil, or_false] at h
  rcases h with ⟨rfl, rfl⟩ | ⟨rfl, rfl⟩ | ⟨rfl, rfl⟩ | ⟨rfl, rfl⟩ <;> rfl

theorem ofEscape_of_not_mem {c : Char} (h : c ∉ ['n', 't', '"', '\\']) :
    ofEscape c = ['\\', c] := by
  simp only [List.mem_cons, List.not_mem_nil, or_false, not_or] at h
  obtain ⟨hn, ht, hq, hb⟩ := h
  rw [ofEscape, if_neg hn, if_neg ht, if_neg hq, if_neg hb]

theorem decode_plain {c : Char} (h : c ≠ '\\') (rest : List Char) :
    decode (c :: rest) = c :: decode rest := by
  rw [decode]
  all_goals (intros; simp_all)

theorem decode_escape (c : Char) (rest : List Char) :
    decode ('\\' :: c :: rest) = ofEscape c ++ decode rest := by
  unfold ofEscape
  split
  · simp_all [decode]
  · split
    · simp_all [decode]
    · split
      · simp_all [decode]
      · split
        · simp_all [decode]
        · rw [decode]
          · rfl
          all_goals (intros; simp_all)

/-- Decoding undoes encoding. -/
theorem decode_encode (text : List Char) : decode (encode text) = text := by
  induction text with
  | nil => rfl
  | cons c rest ih =>
      rw [encode]
      split_ifs with hnewline htab hquote hbackslash
      · rw [decode_escape, ih, hnewline]
        rfl
      · rw [decode_escape, ih, htab]
        rfl
      · rw [decode_escape, ih, hquote]
        rfl
      · rw [decode_escape, ih, hbackslash]
        rfl
      · rw [decode_plain hbackslash, ih]

/-- **A whole text is decoded by itself**, whatever follows. -/
theorem decode_append {front : List Char} (h : Whole front) (rest : List Char) :
    decode (front ++ rest) = decode front ++ decode rest := by
  induction h with
  | nil => rfl
  | plain hplain _ ih =>
      rw [List.cons_append, decode_plain hplain, decode_plain hplain, ih, List.cons_append]
  | escape _ ih =>
      rw [List.cons_append, List.cons_append, decode_escape, decode_escape, ih,
        List.append_assoc]

theorem Whole.append {front rest : List Char} (hfront : Whole front) (hrest : Whole rest) :
    Whole (front ++ rest) := by
  induction hfront with
  | nil => exact hrest
  | plain hplain _ ih => exact .plain hplain ih
  | escape _ ih => exact .escape ih

theorem whole_of_plain {text : List Char} (h : '\\' ∉ text) : Whole text := by
  induction text with
  | nil => exact .nil
  | cons c rest ih =>
      rw [List.mem_cons, not_or] at h
      exact .plain (Ne.symm h.1) (ih h.2)

theorem decode_of_plain {text : List Char} (h : '\\' ∉ text) : decode text = text := by
  induction text with
  | nil => rfl
  | cons c rest ih =>
      rw [List.mem_cons, not_or] at h
      rw [decode_plain (Ne.symm h.1), ih h.2]

/-! ## Runs of backslashes -/

/-- How many backslashes a text ends with. -/
def closing (text : List Char) : Nat := (text.reverse.takeWhile (· = '\\')).length

theorem closing_concat_backslash (text : List Char) :
    closing (text ++ ['\\']) = closing text + 1 := by
  simp [closing]

theorem closing_concat_plain {c : Char} (h : c ≠ '\\') (text : List Char) :
    closing (text ++ [c]) = 0 := by
  simp [closing, h]

/-- A text that ends with an even number of backslashes is whole, and one that ends with an odd
number is whole up to the last of them. -/
theorem whole_of_closing (text : List Char) :
    (closing text % 2 = 0 → Whole text) ∧
      (closing text % 2 = 1 → ∃ front, Whole front ∧ text = front ++ ['\\']) := by
  -- from the end: a further backslash turns the number over, any other character resets it
  induction text using List.reverseRecOn with
  | nil => exact ⟨fun _ => .nil, fun hodd => absurd hodd (by decide)⟩
  | append_singleton text c ih =>
      obtain ⟨heven, hodd⟩ := ih
      by_cases hc : c = '\\'
      · subst hc
        rw [closing_concat_backslash]
        refine ⟨fun h => ?_, fun h => ⟨text, heven (by omega), rfl⟩⟩
        obtain ⟨front, hfront, rfl⟩ := hodd (by omega)
        rw [List.append_assoc]
        exact hfront.append (.escape .nil)
      · rw [closing_concat_plain hc]
        refine ⟨fun _ => ?_, fun h => absurd h (by decide)⟩
        rcases Nat.mod_two_eq_zero_or_one (closing text) with h | h
        · exact (heven h).append (.plain hc .nil)
        · obtain ⟨front, hfront, rfl⟩ := hodd h
          rw [List.append_assoc]
          exact hfront.append (.escape .nil)

/-! ## Values piece by piece -/

/-- The parts of a text have their values by themselves if the first one is whole. -/
theorem value_double_append {before : String} (hbefore : Whole before.toList) (after : String) :
    value (double (before ++ after)) = value (double before) ++ value (double after) := by
  rw [value_double, String.toList_append, decode_append hbefore, String.ofList_append,
    value_double, value_double]

/-- The value of a text that starts with an escape. -/
theorem value_double_escape (c : Char) (after : String) :
    value (double ("\\" ++ String.singleton c ++ after)) =
      String.ofList (ofEscape c) ++ value (double after) := by
  have hlist : ("\\" ++ String.singleton c ++ after).toList = '\\' :: c :: after.toList := by
    rw [String.toList_append, String.toList_append, String.toList_singleton]
    rfl
  rw [value_double, hlist, decode_escape, String.ofList_append, value_double]

/-- A text without backslashes is its own value. -/
theorem value_double_of_plain {text : String} (h : '\\' ∉ text.toList) :
    value (double text) = text := by
  rw [value_double, decode_of_plain h, String.ofList_toList]

/-- **Values undo escapes.**

* The value of a text that is written with escapes between double quotes is the text, whatever
  characters it has.
* The value of a text between back quotes is the text.
* Take an escape anywhere in a text between double quotes, that is, a backslash after an even number
  of backslashes, and the character after it.  What stands before it and what stands after it have
  their values as if it were not there.  One of the four stands for its character; any other is kept
  as it is written, with the digits that may belong to it.
* A backslash at the end, with nothing to escape, is kept. -/
theorem value_undoes_escapes :
    (∀ text, value (double (escaped text)) = text) ∧
    (∀ text, value (back text) = text) ∧
    (∀ before : String, closing before.toList % 2 = 0 → ∀ after : String,
      value (double (before ++ after)) = value (double before) ++ value (double after) ∧
      (∀ c d, (c, d) ∈ [('n', '\n'), ('t', '\t'), ('"', '"'), ('\\', '\\')] →
        value (double (before ++ ("\\" ++ String.singleton c ++ after))) =
          value (double before) ++ (String.singleton d ++ value (double after))) ∧
      ∀ (c : Char) (digits : String), c ∉ ['n', 't', '"', '\\'] → '\\' ∉ digits.toList →
        value (double (before ++ ("\\" ++ String.singleton c ++ (digits ++ after)))) =
          value (double before) ++
            ("\\" ++ String.singleton c ++ (digits ++ value (double after)))) ∧
    ∀ before : String, closing before.toList % 2 = 0 →
      value (double (before ++ "\\")) = value (double before) ++ "\\" := by
  refine ⟨?_, value_back, ?_, ?_⟩
  · intro text
    rw [value_double, escaped, String.toList_ofList, decode_encode, String.ofList_toList]
  · intro before heven after
    have hbefore : Whole before.toList := (whole_of_closing before.toList).1 heven
    refine ⟨value_double_append hbefore after, ?_, ?_⟩
    · intro c d hescape
      rw [value_double_append hbefore, value_double_escape, ofEscape_of_mem hescape,
        String.singleton_eq_ofList]
    · intro c digits hc hdigits
      have hkept : String.ofList (ofEscape c) = "\\" ++ String.singleton c := by
        rw [ofEscape_of_not_mem hc, ← String.toList_inj, String.toList_append,
          String.toList_singleton, String.toList_ofList]
        rfl
      rw [value_double_append hbefore, value_double_escape,
        value_double_append (whole_of_plain hdigits), value_double_of_plain hdigits, hkept]
  · intro before heven
    rw [value_double_append ((whole_of_closing before.toList).1 heven)]
    rfl

/-- After four backslashes the fifth one starts an escape, which keeps its digits; the escape after
it is undone. -/
theorem value_keeps_hex_escape :
    closing "a\\\\\\\\".toList % 2 = 0 ∧
      value (double ("a\\\\\\\\" ++ ("\\" ++ String.singleton 'x' ++ ("41" ++ "\\t")))) =
        "a\\\\" ++ ("\\" ++ String.singleton 'x' ++ ("41" ++ "\t")) := by
  have heven : closing "a\\\\\\\\".toList % 2 = 0 := by decide +kernel
  refine ⟨heven, ?_⟩
  obtain ⟨_, _, hescape, _⟩ := value_undoes_escapes
  obtain ⟨_, _, hkept⟩ := hescape "a\\\\\\\\" heven "\\t"
  rw [hkept 'x' "41" (by decide) (by decide +kernel)]
  decide +kernel

end WorkflowGraph.Go.Quoted
