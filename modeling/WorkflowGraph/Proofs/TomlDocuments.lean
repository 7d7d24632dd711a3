import WorkflowGraph.Proofs.Digits
import WorkflowGraph.Proofs.TomlStrings

/-!
# Documents read back

A document with the layout of `WrittenSections` is read back: its sections are the tables of the
document, in order, and their entries have the values that were written (`parse?_of_written`).  This
asks of the names only what the layout takes for granted, that they need no quotes and that no table
has the same key twice (`Section.Readable`).

The document is read line by line, and there is one rule for each kind of line: `reads_header`,
`reads_entry`, `reads_empty_line` and, for the end of the text, `reads_end`.
-/

namespace WorkflowGraph.Toml

/-- What a setting is as a value. -/
def Setting.value : Setting → Toml
  | text value => .text value
  | natural value => .integer value
  | flag value => .bool value
  | texts values => .array (values.map .text)

namespace Reader

variable {rest : List Char}

/-! ## Numbers -/

/-- What comes after digits is where they end. -/
theorem eq_of_digits_append {digits front back : List Char} {c d : Char}
    (hdigits : ∀ a ∈ digits, a.isDigit = true) (hfront : ∀ a ∈ front, a.isDigit = true)
    (hc : c.isDigit = false) (hd : d.isDigit = false)
    (heq : digits ++ c :: rest = front ++ d :: back) : c = d := by
  induction digits generalizing front with
  | nil =>
      cases front with
      | nil => exact (List.cons.inj heq).1
      | cons a front =>
          have ha := hfront a List.mem_cons_self
          exact absurd (List.cons.inj heq).1.symm (ne_of_test ha hc)
  | cons a digits ih =>
      cases front with
      | nil =>
          have ha := hdigits a List.mem_cons_self
          exact absurd (List.cons.inj heq).1 (ne_of_test ha hd)
      | cons b front =>
          exact ih (fun x hx => hdigits x (List.mem_cons_of_mem _ hx))
            (fun x hx => hfront x (List.mem_cons_of_mem _ hx)) (List.cons.inj heq).2

theorem twoDigits?_eq_some {low high n : Nat} {input back : List Char}
    (h : twoDigits? low high input = some (n, back)) :
    ∃ front, (∀ a ∈ front, a.isDigit = true) ∧ input = front ++ back := by
  unfold twoDigits? at h
  split at h
  · next a b more =>
      split at h
      · next hdigits =>
          rw [Bool.and_eq_true] at hdigits
          dsimp only at h
          split at h
          · obtain ⟨_, rfl⟩ := Prod.mk.inj (Option.some.inj h)
            exact ⟨[a, b], by simpa using hdigits, rfl⟩
          · cases h
      · cases h
  · cases h

section Digits

variable {digits : List Char} (hdigits : ∀ a ∈ digits, a.isDigit = true)

include hdigits

theorem date_digits : date (digits ++ '\n' :: rest) = .absent := by
  unfold date
  split
  · next a b c d back heq =>
      split
      · next hall =>
          have hfront : ∀ x ∈ [a, b, c, d], x.isDigit = true := List.all_eq_true.mp hall
          have hpoint : digits ++ '\n' :: rest = [a, b, c, d] ++ '-' :: back := heq
          have hline : '\n' = '-' := eq_of_digits_append hdigits hfront rfl rfl hpoint
          exact absurd hline (by decide)
      · rfl
  · rfl

theorem time_digits : time (digits ++ '\n' :: rest) = .absent := by
  unfold time
  split
  · next heq =>
      obtain ⟨front, hfront, hpoint⟩ := twoDigits?_eq_some heq
      have hline : '\n' = ':' := eq_of_digits_append hdigits hfront rfl rfl hpoint
      exact absurd hline (by decide)
  · rfl

/-- Digits alone are no date and no time. -/
theorem moment_digits : moment (digits ++ '\n' :: rest) = .absent := by
  rw [moment, date_digits hdigits]
  exact time_digits hdigits

theorem digits?_digits (hsome : digits ≠ []) :
    digits? Char.isDigit (digits ++ '\n' :: rest) = some (digits, '\n' :: rest) := by
  induction digits with
  | nil => exact absurd rfl hsome
  | cons a digits ih =>
      have ha := hdigits a List.mem_cons_self
      cases digits with
      | nil => simp [digits?, ha]
      | cons b digits =>
          have hb := hdigits b (by simp)
          have hothers :=
            ih (fun x hx => hdigits x (List.mem_cons_of_mem _ hx)) (List.cons_ne_nil _ _)
          have hbar : b ≠ '_' := ne_of_test hb rfl
          rw [List.cons_append] at hothers
          simp [digits?, ha, hb, hbar, hothers]

theorem inBase_ten : inBase 10 digits = Number.ofDigits digits := by
  refine List.foldl_ext _ _ 0 fun value c hc => ?_
  simp [hexValue?, hdigits c hc]

end Digits

section Integers

variable {n : Nat}

/-- The digits of a number begin with a digit. -/
theorem exists_digits_cons (n : Nat) :
    ∃ c more, Number.digits n = c :: more ∧ c.isDigit = true := by
  obtain ⟨c, more, heq⟩ := List.exists_cons_of_ne_nil (Number.digits_ne_nil n)
  exact ⟨c, more, heq, Number.isDigit_of_mem_digits (heq ▸ List.mem_cons_self)⟩

/-- After a zero the number is over. -/
theorem digits_append_ne_zero_cons {c : Char} (hc : c ≠ '\n') (more : List Char) :
    Number.digits n ++ '\n' :: rest ≠ '0' :: c :: more := by
  obtain ⟨a, others, heq, _⟩ := exists_digits_cons n
  rw [heq, List.cons_append]
  intro hzero
  rw [(List.cons.inj hzero).1] at heq
  cases others with
  | nil => exact hc (List.cons.inj (List.cons.inj hzero).2).1.symm
  | cons b others => exact Number.digits_ne_zero_cons n b others heq

theorem whole?_digits :
    whole? (Number.digits n ++ '\n' :: rest) = some (Number.digits n, '\n' :: rest) := by
  unfold whole?
  split
  · next more heq =>
      obtain ⟨a, others, hdigits, _⟩ := exists_digits_cons n
      rw [hdigits, List.cons_append] at heq
      obtain ⟨rfl, rfl⟩ := List.cons.inj heq
      cases others with
      | nil => rw [hdigits, List.nil_append]
      | cons b others => exact absurd hdigits (Number.digits_ne_zero_cons n b others)
  · exact digits?_digits (fun _ => Number.isDigit_of_mem_digits) (Number.digits_ne_nil n)

theorem sign_digits :
    sign (Number.digits n ++ '\n' :: rest) = (false, Number.digits n ++ '\n' :: rest) := by
  obtain ⟨a, others, hdigits, ha⟩ := exists_digits_cons n
  rw [hdigits, List.cons_append]
  unfold sign
  split
  · next heq => exact absurd (List.cons.inj heq).1 (ne_of_test ha rfl)
  · next heq => exact absurd (List.cons.inj heq).1 (ne_of_test ha rfl)
  · rfl

theorem special?_digits : special? (Number.digits n ++ '\n' :: rest) = none := by
  obtain ⟨a, others, hdigits, ha⟩ := exists_digits_cons n
  rw [hdigits, List.cons_append]
  unfold special?
  split
  · next heq => exact absurd (List.cons.inj heq).1 (ne_of_test ha rfl)
  · next heq => exact absurd (List.cons.inj heq).1 (ne_of_test ha rfl)
  · rfl

theorem decimal?_digits : decimal? (Number.digits n ++ '\n' :: rest) = none := by
  have hfraction : fraction? ('\n' :: rest) = none := rfl
  have hexponent : exponent? ('\n' :: rest) = none := rfl
  rw [decimal?, sign_digits]
  simp only [special?_digits, whole?_digits, hfraction, hexponent, Option.map_none, bind,
    Option.bind_some, Option.bind_none]

theorem integer?_eq_fitting? :
    integer? (Number.digits n ++ '\n' :: rest) =
      fitting? (inBase 10 (Number.digits n)) ('\n' :: rest) := by
  unfold integer?
  split
  · next heq => exact absurd heq (digits_append_ne_zero_cons (by decide) _)
  · next heq => exact absurd heq (digits_append_ne_zero_cons (by decide) _)
  · next heq => exact absurd heq (digits_append_ne_zero_cons (by decide) _)
  · -- spelled out, so that nothing unfolds the bounds of 64 bits
    rw [sign_digits]
    show (whole? (Number.digits n ++ '\n' :: rest) >>= fun found =>
      fitting? (if false = true then -(inBase 10 found.1 : Int) else inBase 10 found.1) found.2) = _
    rw [whole?_digits, Option.bind_eq_bind, Option.bind_some, if_neg (by decide)]

theorem integer?_digits (hn : n < 2 ^ 63) :
    integer? (Number.digits n ++ '\n' :: rest) = some (.integer n, '\n' :: rest) := by
  have hvalue : inBase 10 (Number.digits n) = n := by
    rw [inBase_ten fun _ => Number.isDigit_of_mem_digits, Number.ofDigits_digits]
  rw [integer?_eq_fitting?, hvalue, fitting?, if_pos (fitsSigned_natCast_iff.mpr hn)]

/-- The digits of a number are read as the number. -/
theorem scalar?_digits (hn : n < 2 ^ 63) :
    scalar? (Number.digits n ++ '\n' :: rest) = some (.integer n, '\n' :: rest) := by
  have hnumeric : numeric? (Number.digits n ++ '\n' :: rest) = some (.integer n, '\n' :: rest) := by
    rw [numeric?, moment_digits fun _ => Number.isDigit_of_mem_digits]
    simp only [decimal?_digits, integer?_digits hn]
  obtain ⟨a, others, hdigits, ha⟩ := exists_digits_cons n
  rw [hdigits, List.cons_append] at hnumeric ⊢
  have hquote : ¬(decide (a = '"') || decide (a = '\'')) = true := by
    simp [ne_of_test ha (d := '"') rfl, ne_of_test ha (d := '\'') rfl]
  rw [scalar?, if_neg hquote, if_pos (by simp [ha]), hnumeric]

end Integers

/-! ## Values -/

/-- A value that starts with no bracket holds no others. -/
theorem value?_scalar {c : Char} (hbracket : c ≠ '[') (hbrace : c ≠ '\x7b') (fuel depth : Nat)
    (input : List Char) : value? (fuel + 1) depth (c :: input) = scalar? (c :: input) := by
  simp [value?, hbracket, hbrace]

theorem value?_string {text written : List Char} (h : WrittenString text written)
    (hdouble : rest.head? ≠ some '"') (hsingle : rest.head? ≠ some '\'') (fuel depth : Nat) :
    value? (fuel + 1) depth (written ++ rest) = some (.text (String.ofList text), rest) := by
  have hstring := string?_of_written h hdouble hsingle
  obtain ⟨c, more, rfl, hc⟩ := h.exists_cons
  have hquote : (decide (c = '"') || decide (c = '\'')) = true := by simpa using hc
  have hbracket : c ≠ '[' := by rcases hc with rfl | rfl <;> decide
  have hbrace : c ≠ '\x7b' := by rcases hc with rfl | rfl <;> decide
  rw [List.cons_append] at hstring ⊢
  rw [value?_scalar hbracket hbrace, scalar?, if_pos hquote, hstring, Option.map_some]

theorem skipLines_space (fuel : Nat) (input : List Char) :
    skipLines fuel (' ' :: input) = skipLines fuel input := by
  cases fuel with
  | zero => rfl
  | succ fuel => rfl

theorem skipLines_newline (fuel : Nat) (input : List Char) :
    skipLines (fuel + 1) ('\n' :: input) = skipLines fuel input := rfl

theorem skipLines_bracket (fuel : Nat) (input : List Char) :
    skipLines (fuel + 1) (']' :: input) = some (']' :: input) := rfl

theorem skipLines_comma (fuel : Nat) (input : List Char) :
    skipLines (fuel + 1) (',' :: input) = some (',' :: input) := rfl

/-- Nothing is skipped in front of a string. -/
theorem skipLines_string {text written : List Char} (h : WrittenString text written) (fuel : Nat)
    (rest : List Char) : skipLines (fuel + 1) (written ++ rest) = some (written ++ rest) := by
  obtain ⟨c, more, rfl, hc⟩ := h.exists_cons
  rcases hc with rfl | rfl <;> rfl

section Items

variable {fuel depth : Nat} {input text written : List Char} (h : WrittenString text written)

include h

/-- The item before the closing bracket. -/
theorem items?_last (hskip : skipLines (input.length + 1) input = some (written ++ ']' :: rest)) :
    items? (fuel + 2) depth input = some ([.text (String.ofList text)], rest) := by
  have hvalue : value? (fuel + 1) depth (written ++ ']' :: rest) = some (_, ']' :: rest) :=
    value?_string h (by simp) (by simp) fuel depth
  obtain ⟨c, more, rfl, hc⟩ := h.exists_cons
  have hclose : c ≠ ']' := by rcases hc with rfl | rfl <;> decide
  rw [List.cons_append] at hskip hvalue
  rw [items?, hskip]
  simp [hvalue, hclose, skipLines_bracket]

/-- An item before a comma. -/
theorem items?_comma {middle : List Char} {items : List Toml}
    (hskip : skipLines (input.length + 1) input = some (written ++ ',' :: middle))
    (hrest : items? (fuel + 1) depth middle = some (items, rest)) :
    items? (fuel + 2) depth input = some (.text (String.ofList text) :: items, rest) := by
  have hvalue : value? (fuel + 1) depth (written ++ ',' :: middle) = some (_, ',' :: middle) :=
    value?_string h (by simp) (by simp) fuel depth
  obtain ⟨c, more, rfl, hc⟩ := h.exists_cons
  have hclose : c ≠ ']' := by rcases hc with rfl | rfl <;> decide
  rw [List.cons_append] at hskip hvalue
  rw [items?, hskip]
  simp [hvalue, hclose, skipLines_comma, hrest]

end Items

/-- The items of an array, each on a line of its own, are read back. -/
theorem reads_items {values : List String} {written : List Char} (h : WrittenItems values written)
    (depth : Nat) (rest : List Char) :
    Reads (items? · depth) ('\n' :: written ++ ']' :: rest) (values.map .text, rest) := by
  induction h with
  | nil => exact reads_of_succ fun _ _ => rfl
  | @cons value values written more hvalue _ ih =>
      apply reads_of_succ
      intro fuel hfuel
      simp only [List.cons_append, List.append_assoc, List.nil_append, List.length_cons,
        List.length_append] at ih hfuel ⊢
      obtain ⟨fuel, rfl⟩ : ∃ k, fuel = k + 1 := ⟨fuel - 1, by omega⟩
      have hitems := ih (fuel + 1) (by simp only [List.length_cons, List.length_append]; omega)
      rw [List.map_cons, ← String.ofList_toList (s := value)]
      refine items?_comma hvalue ?_ hitems
      simp only [skipLines_space, skipLines_newline, List.length_cons]
      exact skipLines_string hvalue _ _

theorem value?_array {fuel depth : Nat} {input : List Char} {items : List Toml}
    (h : items? fuel depth input = some (items, rest)) :
    value? (fuel + 1) (depth + 1) ('[' :: input) = some (.array items, rest) := by
  simp [value?, h]

/-- **A written value is read back** at the end of its line. -/
theorem reads_value {setting : Setting} {written : List Char} (h : WrittenSetting setting written)
    (depth : Nat) (rest : List Char) :
    Reads (value? · (depth + 1)) (written ++ '\n' :: rest) (setting.value, '\n' :: rest) := by
  apply reads_of_succ
  intro fuel hfuel
  cases h with
  | text hvalue =>
      rw [value?_string hvalue (by simp) (by simp), String.ofList_toList, Setting.value]
  | @natural value hvalue =>
      have hscalar : scalar? (Number.digits value ++ '\n' :: rest) = _ := scalar?_digits hvalue
      obtain ⟨c, more, hdigits, hc⟩ := exists_digits_cons value
      rw [hdigits, List.cons_append] at hscalar ⊢
      rw [value?_scalar (ne_of_test hc rfl) (ne_of_test hc rfl), hscalar, Setting.value]
  | yes => rfl
  | no => rfl
  | noTexts =>
      obtain ⟨fuel, rfl⟩ : ∃ k, fuel = k + 1 := ⟨fuel - 1, by simp at hfuel; omega⟩
      exact value?_array rfl
  | @oneText value written hvalue =>
      simp only [List.cons_append, List.append_assoc, List.nil_append, List.length_cons,
        List.length_append] at hfuel ⊢
      obtain ⟨fuel, rfl⟩ : ∃ k, fuel = k + 2 := ⟨fuel - 2, by omega⟩
      rw [Setting.value, List.map_cons, List.map_nil, ← String.ofList_toList (s := value)]
      exact value?_array (items?_last hvalue (skipLines_string hvalue _ _))
  | moreTexts hitems =>
      have hread := reads_items hitems depth ('\n' :: rest)
      simp only [List.cons_append, List.append_assoc, List.nil_append,
        List.length_cons] at hread hfuel ⊢
      exact value?_array (hread fuel hfuel)

/-! ## Keys -/

/-- Nothing is skipped in front of a character that a test tells from blanks. -/
theorem skipSpace_cons {test : Char → Bool} {c : Char} (hc : test c = true)
    (hblank : test ' ' = false) (htab : test '\t' = false) (input : List Char) :
    skipSpace (c :: input) = c :: input := by
  apply List.dropWhile_cons_of_neg
  simp [isSpace, ne_of_test hc hblank, ne_of_test hc htab]

/-- A key that needs no quotes. -/
def IsBare (key : String) : Prop := key.toList ≠ [] ∧ key.toList.all isKeyChar = true

instance : DecidablePred IsBare := fun key =>
  inferInstanceAs (Decidable (key.toList ≠ [] ∧ key.toList.all isKeyChar = true))

theorem IsBare.isKeyChar {key : String} (h : IsBare key) : ∀ c ∈ key.toList, isKeyChar c = true :=
  List.all_eq_true.mp h.2

theorem IsBare.exists_cons {key : String} (h : IsBare key) :
    ∃ c more, key.toList = c :: more ∧ Reader.isKeyChar c = true := by
  obtain ⟨c, more, hcons⟩ := List.exists_cons_of_ne_nil h.1
  exact ⟨c, more, hcons, h.isKeyChar c (hcons ▸ List.mem_cons_self)⟩

/-- A bare key is read up to the first character that is not of a key. -/
theorem simpleKey?_append {key : String} (hkey : IsBare key) {d : Char} (hd : isKeyChar d = false)
    (rest : List Char) : simpleKey? (key.toList ++ d :: rest) = some (key, d :: rest) := by
  have hspan : (key.toList ++ d :: rest).span isKeyChar = (key.toList, d :: rest) := by
    rw [List.span_eq_takeWhile_dropWhile, List.takeWhile_append_of_pos hkey.isKeyChar,
      List.dropWhile_append_of_pos hkey.isKeyChar]
    simp [hd]
  obtain ⟨c, more, hcons, hc⟩ := hkey.exists_cons
  rw [hcons, List.cons_append] at hspan ⊢
  unfold simpleKey?
  split
  · next heq => exact absurd (List.cons.inj heq).1 (ne_of_test hc rfl)
  · next heq => exact absurd (List.cons.inj heq).1 (ne_of_test hc rfl)
  · rw [hspan]
    simp only [← hcons, String.ofList_toList]

/-- A bare key is the last part of a path with no others, if no dot comes next. -/
theorem key?_append {key : String} (hkey : IsBare key) {d : Char} (hd : isKeyChar d = false)
    (hdot : (skipSpace (d :: rest)).head? ≠ some '.') :
    key? (key.toList ++ d :: rest) = some (([], key), skipSpace (d :: rest)) := by
  have hsimple := simpleKey?_append hkey hd rest
  have hskip : skipSpace (key.toList ++ d :: rest) = key.toList ++ d :: rest := by
    obtain ⟨c, more, hcons, hc⟩ := hkey.exists_cons
    rw [hcons, List.cons_append, skipSpace_cons hc rfl rfl]
  have hparts : keyParts? ((key.toList ++ d :: rest).length + 1) (key.toList ++ d :: rest) =
      some ([key], skipSpace (d :: rest)) := by
    rw [keyParts?, hskip, hsimple]
    dsimp only [bind, Option.bind_some]
    split
    · next heq => exact absurd (by rw [heq, List.head?_cons]) hdot
    · rfl
  rw [key?, hparts]
  rfl

/-! ## Tables -/

section Tables

variable {root : Entries} {key : String}

theorem setEntry_of_lookup_eq_none (h : root.lookup key = none) (value : Toml) :
    setEntry key value root = root ++ [(key, value)] := by
  induction root with
  | nil => rfl
  | cons entry root ih =>
      obtain ⟨other, old⟩ := entry
      rw [List.lookup_cons] at h
      split at h
      · cases h
      · next hne =>
          have hother : other ≠ key := fun heq => by simp [heq] at hne
          rw [setEntry, if_neg hother, ih h, List.cons_append]

theorem dropEntry_of_lookup_eq_none (h : root.lookup key = none) : dropEntry key root = root := by
  rw [dropEntry, List.filter_eq_self]
  intro entry hentry
  have hne := List.lookup_eq_none_iff.mp h entry hentry
  have hother : entry.1 ≠ key := fun heq => by simp [heq] at hne
  exact decide_eq_true hother

/-- The state in the table of a header, with the document so far. -/
def State.within (root : Entries) (name : String) (entries : Entries) : State :=
  { root, path := [name], inList := false, entries }

/-- An entry with a new key is added. -/
theorem State.add_within {name : String} {entries : Entries} (h : entries.lookup key = none)
    (value : Toml) :
    (State.within root name entries).add [] key value =
      some (State.within root name (entries ++ [(key, value)])) := by
  simp [State.add, State.within, setKey, changeAt, addEntry, h]

/-- A table is put at the end of the document. -/
theorem State.close_within (h : root.lookup key = none) (entries : Entries) :
    (State.within root key entries).close = some (root ++ [(key, .table .header entries)]) := by
  simp [State.close, State.within, changeAt, setEntry_of_lookup_eq_none h]

/-- A header with a new name starts an empty table. -/
theorem State.openTable_of_close {state : State} (hclose : state.close = some root)
    (h : root.lookup key = none) : state.openTable [] key = some (State.within root key []) := by
  simp [State.openTable, State.within, hclose, changeAt, State.continued?, State.endOf, h,
    dropEntry_of_lookup_eq_none h]

end Tables

/-! ## Lines -/

section Lines

variable {root entries document : Entries} {key name : String} {state : State} {written : List Char}

/-- No value starts with a blank. -/
theorem skipSpace_written {setting : Setting} (h : WrittenSetting setting written)
    (rest : List Char) : skipSpace (written ++ rest) = written ++ rest := by
  cases h with
  | text hvalue =>
      obtain ⟨c, more, rfl, hc⟩ := hvalue.exists_cons
      rcases hc with rfl | rfl <;> rfl
  | @natural value =>
      obtain ⟨c, more, hdigits, hc⟩ := exists_digits_cons value
      rw [hdigits, List.cons_append, skipSpace_cons hc rfl rfl]
  | yes | no | noTexts | oneText | moreTexts => rfl

/-- The line of an entry adds it to its table. -/
theorem entry?_written {setting : Setting} (hkey : IsBare key) (h : WrittenSetting setting written)
    (hnew : entries.lookup key = none) (rest : List Char) :
    entry? (State.within root name entries)
        (key.toList ++ [' ', '=', ' '] ++ written ++ ['\n'] ++ rest) =
      some (State.within root name (entries ++ [(key, setting.value)]), rest) := by
  have hfound : key? (key.toList ++ ' ' :: '=' :: ' ' :: (written ++ '\n' :: rest)) =
      some (([], key), '=' :: ' ' :: (written ++ '\n' :: rest)) :=
    key?_append hkey rfl (by simp [skipSpace, isSpace])
  have hskip : skipSpace (' ' :: (written ++ '\n' :: rest)) = written ++ '\n' :: rest :=
    skipSpace_written h _
  have hvalue : value? (2 * (written ++ '\n' :: rest).length + 2) (nestingLimit - 1)
      (written ++ '\n' :: rest) = some (setting.value, '\n' :: rest) :=
    reads_value h (nestingLimit - 2) rest _ (by omega)
  have hline : endOfLine? ('\n' :: rest) = some rest := rfl
  simp only [List.append_assoc, List.cons_append, List.nil_append]
  unfold entry?
  rw [hfound]
  simp only [bind, Option.bind_some, hskip, hvalue, hline, State.add_within hnew]

/-- The line of a header starts its table. -/
theorem header?_written (hname : IsBare name) (hclose : state.close = some root)
    (hnew : root.lookup name = none) (rest : List Char) :
    header? state (name.toList ++ [']', '\n'] ++ rest) = some (State.within root name [], rest) := by
  have hkey : key? (name.toList ++ ']' :: '\n' :: rest) = some (([], name), ']' :: '\n' :: rest) :=
    key?_append hname rfl (by simp [skipSpace, isSpace])
  obtain ⟨c, more, hcons, hc⟩ := hname.exists_cons
  rw [List.append_assoc, List.cons_append, List.cons_append, List.nil_append]
  rw [hcons, List.cons_append] at hkey ⊢
  unfold header?
  split
  · next heq => exact absurd (List.cons.inj heq).1 (ne_of_test hc rfl)
  · rw [hkey]
    have hline : endOfLine? ('\n' :: rest) = some rest := rfl
    simp [hline, State.openTable_of_close hclose hnew]

theorem reads_end (hclose : state.close = some document) : Reads (document? · state) [] document :=
  reads_of_succ fun _ _ => hclose

theorem reads_empty_line (h : Reads (document? · state) rest document) :
    Reads (document? · state) ('\n' :: rest) document :=
  reads_of_succ fun fuel hfuel => h fuel hfuel

theorem reads_header (hname : IsBare name) (hclose : state.close = some root)
    (hnew : root.lookup name = none)
    (h : Reads (document? · (State.within root name [])) rest document) :
    Reads (document? · state) (['['] ++ name.toList ++ [']', '\n'] ++ rest) document := by
  apply reads_of_succ
  intro fuel hfuel
  have hheader := header?_written hname hclose hnew rest
  have hless : rest.length < fuel := by
    simp only [List.length_append, List.length_cons] at hfuel
    omega
  have hskip : skipSpace ('[' :: (name.toList ++ [']', '\n'] ++ rest)) =
      '[' :: (name.toList ++ [']', '\n'] ++ rest) := rfl
  rw [List.append_assoc, List.append_assoc, List.singleton_append, ← List.append_assoc, document?,
    hskip]
  simp only [hheader, h fuel hless]

theorem reads_entry {setting : Setting} (hkey : IsBare key) (hvalue : WrittenSetting setting written)
    (hnew : entries.lookup key = none)
    (h : Reads (document? · (State.within root name (entries ++ [(key, setting.value)]))) rest
      document) :
    Reads (document? · (State.within root name entries))
      (key.toList ++ [' ', '=', ' '] ++ written ++ ['\n'] ++ rest) document := by
  apply reads_of_succ
  intro fuel hfuel
  have hentry : entry? (State.within root name entries) _ = _ :=
    entry?_written hkey hvalue hnew rest
  have hless : rest.length < fuel := by
    simp only [List.length_append, List.length_cons] at hfuel
    omega
  obtain ⟨c, more, hcons, hc⟩ := hkey.exists_cons
  have hcomment : c ≠ '#' := ne_of_test hc rfl
  have hbracket : c ≠ '[' := ne_of_test hc rfl
  have hline := newline?_cons (ne_of_test hc rfl) (ne_of_test hc rfl)
  simp only [hcons, List.append_assoc, List.cons_append, List.nil_append] at hentry ⊢
  rw [document?, skipSpace_cons hc rfl rfl]
  simp [hcomment, hbracket, hline, hentry, h fuel hless]

end Lines

end Reader

/-! ## Sections -/

/-- The entries of a table for settings. -/
def entriesOf (entries : List (String × Setting)) : Entries :=
  entries.map fun entry => (entry.1, entry.2.value)

/-- The entry of a document for a section. -/
def Section.entry (block : Section) : String × Toml :=
  (block.name, .table .header (entriesOf block.entries))

/-- A section is readable if its keys need no quotes and none is there twice. -/
structure Section.Readable (block : Section) : Prop where
  name : Reader.IsBare block.name
  keys : ∀ key ∈ block.entries.map Prod.fst, Reader.IsBare key
  nodup : (block.entries.map Prod.fst).Nodup

/-- It is enough that the keys are some of those in a list that has none twice. -/
theorem Section.readable_of_sublist {block : Section} (keys : List String)
    (hname : Reader.IsBare block.name) (hkeys : ∀ key ∈ keys, Reader.IsBare key)
    (hnodup : keys.Nodup) (hsublist : (block.entries.map Prod.fst).Sublist keys) :
    block.Readable where
  name := hname
  keys key hkey := hkeys key (hsublist.subset hkey)
  nodup := hnodup.sublist hsublist

namespace Reader

theorem lookup_eq_none_of_not_mem {entries : Entries} {key : String}
    (h : key ∉ entries.map Prod.fst) : entries.lookup key = none := by
  rw [List.lookup_eq_none_iff]
  intro entry hentry
  have hne : key ≠ entry.1 := fun heq => h (heq ▸ List.mem_map_of_mem hentry)
  simpa using hne

/-- The lines of entries add them, one after the other. -/
theorem reads_entries {root document found : Entries} {name : String}
    {entries : List (String × Setting)} {written rest : List Char}
    (h : WrittenEntries entries written) (hkeys : ∀ key ∈ entries.map Prod.fst, IsBare key)
    (hnodup : (found.map Prod.fst ++ entries.map Prod.fst).Nodup)
    (hrest : Reads (document? · (State.within root name (found ++ entriesOf entries))) rest
      document) :
    Reads (document? · (State.within root name found)) (written ++ rest) document := by
  induction h generalizing found with
  | nil =>
      rw [entriesOf, List.map_nil, List.append_nil] at hrest
      exact hrest
  | @cons key value entries written more hvalue _ ih =>
      have hkey : IsBare key := hkeys key List.mem_cons_self
      have hnew : key ∉ found.map Prod.fst := by
        intro hmem
        exact (List.nodup_append.mp hnodup).2.2 key hmem key List.mem_cons_self rfl
      rw [List.append_assoc]
      refine reads_entry hkey hvalue (lookup_eq_none_of_not_mem hnew) (ih ?_ ?_ ?_)
      · intro other hother
        exact hkeys other (List.mem_cons_of_mem _ hother)
      · simpa using hnodup
      · simpa [entriesOf] using hrest

/-- A section is read as its table, after those before it. -/
theorem reads_section {root document : Entries} {state : State} {block : Section}
    {written rest : List Char} (h : WrittenSection block written) (hblock : block.Readable)
    (hclose : state.close = some root) (hnew : root.lookup block.name = none)
    (hrest : Reads
      (document? · (State.within root block.name (entriesOf block.entries))) rest document) :
    Reads (document? · state) (written ++ rest) document := by
  cases h with
  | mk hentries =>
      rw [List.append_assoc]
      exact reads_header hblock.name hclose hnew
        (reads_entries hentries hblock.keys hblock.nodup hrest)

/-- The sections of a document are read as its tables, after those before them. -/
theorem reads_sections {root : Entries} {state : State} {blocks : List Section}
    {written : List Char} (h : WrittenSections blocks written)
    (hblocks : ∀ block ∈ blocks, block.Readable)
    (hnodup : (root.map Prod.fst ++ blocks.map Section.name).Nodup)
    (hclose : state.close = some root) :
    Reads (document? · state) written (root ++ blocks.map Section.entry) := by
  induction h generalizing root state with
  | none =>
      rw [List.map_nil, List.append_nil]
      exact reads_end hclose
  | @last block written hwritten =>
      have hnew : root.lookup block.name = none := lookup_eq_none_of_not_mem fun hmem =>
        (List.nodup_append.mp hnodup).2.2 _ hmem _ List.mem_cons_self rfl
      rw [← List.append_nil written]
      exact reads_section hwritten (hblocks block List.mem_cons_self) hclose hnew
        (reads_end (State.close_within hnew _))
  | @more block next blocks written rest hwritten _ ih =>
      have hnew : root.lookup block.name = none := lookup_eq_none_of_not_mem fun hmem =>
        (List.nodup_append.mp hnodup).2.2 _ hmem _ List.mem_cons_self rfl
      have hothers : Reads (document? · (State.within root block.name (entriesOf block.entries)))
          rest (root ++ [block.entry] ++ (next :: blocks).map Section.entry) := by
        refine ih (fun other hother => hblocks other (List.mem_cons_of_mem _ hother)) ?_
          (State.close_within hnew _)
        simpa [Section.entry] using hnodup
      rw [List.append_assoc, List.singleton_append] at hothers
      rw [List.append_assoc]
      exact reads_section hwritten (hblocks block List.mem_cons_self) hclose hnew
        (reads_empty_line hothers)

end Reader

theorem WrittenSection.exists_cons {block : Section} {written : List Char}
    (h : WrittenSection block written) : ∃ more, written = '[' :: more := by
  cases h with
  | mk => exact ⟨_, rfl⟩

/-- A document starts with a bracket, if with anything. -/
theorem WrittenSections.ne_cons {blocks : List Section} {written : List Char}
    (h : WrittenSections blocks written) {c : Char} (hc : c ≠ '[') (rest : List Char) :
    written ≠ c :: rest := by
  intro heq
  cases h with
  | none => cases heq
  | last hblock | more hblock =>
      obtain ⟨more, rfl⟩ := hblock.exists_cons
      exact hc (List.cons.inj heq).1.symm

/-- **A written document is read back.** -/
theorem parse?_of_written {blocks : List Section} {text : String}
    (h : WrittenSections blocks text.toList) (hblocks : ∀ block ∈ blocks, block.Readable)
    (hnodup : (blocks.map Section.name).Nodup) :
    parse? text = some (blocks.map Section.entry) := by
  have hread : Reader.Reads (Reader.document? · {}) text.toList ([] ++ blocks.map Section.entry) :=
    Reader.reads_sections h hblocks hnodup rfl
  -- no mark of the byte order stands in front of a header
  have hmark := h.ne_cons (c := '\uFEFF') (by decide)
  unfold parse?
  split
  · next rest heq => exact absurd heq (hmark rest)
  · exact hread _ (Nat.lt_succ_self _)

end WorkflowGraph.Toml
