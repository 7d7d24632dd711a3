import WorkflowGraph.Proofs.JsonNumbers

/-!
# Documents read back

What is written in either style is read back, if the value is one that a text can spell
(`Writable`): its strings and keys have a value and its integers have 64 bits.  The one thing that
is lost is that an infinite number was there, which is read as `null` (`asRead`).  The readers are
bounded by a number of steps; one step more reads one bracket more (`ReadsWritten.value_succ` and
the lemmas before it), and the length of the text is bound enough.
-/

namespace WorkflowGraph.Json

open Number Number.Binary64

/-! ## Strings -/

section Strings

variable {rest : List Char}

theorem hexValue?_hexDigit : ∀ {n : Nat}, n < 16 → Reader.hexValue? (hexDigit n) = some n := by
  decide

section Unit

variable {fuel : Nat} {units : List Nat} {tail : List Char}

/-- A letter after a backslash is read as what it stands for. -/
theorem units?_backslash {c d : Char} (hvalue : Reader.escapeValue? d = some c) (hd : d ≠ 'u')
    (h : Reader.units? fuel rest = some (units, tail)) :
    Reader.units? (fuel + 1) ('\\' :: d :: rest) = some (c.toNat :: units, tail) := by
  simp [Reader.units?, hvalue, h]

/-- A character that needs no escape is read as itself. -/
theorem units?_plain {c : Char} (hquote : c ≠ '"') (hslash : c ≠ '\\') (hcontrol : ¬c.toNat < 0x20)
    (h : Reader.units? fuel rest = some (units, tail)) :
    Reader.units? (fuel + 1) (c :: rest) = some (c.toNat :: units, tail) := by
  simp [Reader.units?, hslash, hcontrol, h]

/-- A written character is read as its code unit. -/
theorem units?_escaped (c : Char) (h : Reader.units? fuel rest = some (units, tail)) :
    Reader.units? (fuel + 1) (escaped c ++ rest) = some (c.toNat :: units, tail) := by
  unfold escaped
  split
  · next hc =>
      rw [hc]
      exact units?_backslash rfl (by decide) h
  split
  · next hc =>
      rw [hc]
      exact units?_backslash rfl (by decide) h
  split
  · next hc =>
      rw [hc]
      exact units?_backslash rfl (by decide) h
  split
  · next hc =>
      rw [hc]
      exact units?_backslash rfl (by decide) h
  split
  · next hc =>
      rw [hc]
      exact units?_backslash rfl (by decide) h
  split
  · next hc =>
      rw [hc]
      exact units?_backslash rfl (by decide) h
  split
  · next hc =>
      rw [hc]
      exact units?_backslash rfl (by decide) h
  split
  · next hcontrol =>
      have hhigh : c.toNat / 16 < 16 := by omega
      have hlow : c.toNat % 16 < 16 := by omega
      have hzero : Reader.hexValue? '0' = some 0 := rfl
      have hsum : c.toNat / 16 * 16 + c.toNat % 16 = c.toNat := by omega
      simp [Reader.units?, Reader.unit?, hexValue?_hexDigit hhigh, hexValue?_hexDigit hlow, hzero, h,
        hsum]
  · next hquote hslash _ _ _ _ _ hcontrol => exact units?_plain hquote hslash hcontrol h

end Unit

theorem units?_flatMap_escaped (chars : List Char) (rest : List Char) {fuel : Nat}
    (hfuel : chars.length < fuel) :
    Reader.units? fuel (chars.flatMap escaped ++ '"' :: rest) =
      some (chars.map Char.toNat, rest) := by
  induction chars generalizing fuel with
  | nil =>
      obtain ⟨fuel, rfl⟩ : ∃ k, fuel = k + 1 := ⟨fuel - 1, by simp at hfuel; omega⟩
      rfl
  | cons c chars ih =>
      rw [List.length_cons] at hfuel
      obtain ⟨fuel, rfl⟩ : ∃ k, fuel = k + 1 := ⟨fuel - 1, by omega⟩
      rw [List.flatMap_cons, List.append_assoc, List.map_cons]
      exact units?_escaped c (ih (by omega))

/-- A character is no surrogate. -/
theorem toNat_not_surrogate (c : Char) : c.toNat < 0xd800 ∨ 0xdfff < c.toNat := by
  rcases c.valid with h | h
  · exact Or.inl h
  · exact Or.inr h.1

/-- Code units that are characters spell these characters. -/
theorem ofUnits?_map_toNat (chars : List Char) :
    Reader.ofUnits? (chars.map Char.toNat) = some chars := by
  induction chars with
  | nil => rfl
  | cons c chars ih =>
      have hc := toNat_not_surrogate c
      have hlow : ¬((decide (0xdc00 ≤ c.toNat) && decide (c.toNat ≤ 0xdfff)) = true) := by
        simp only [Bool.and_eq_true, decide_eq_true_eq]
        omega
      have hhigh : ¬((decide (0xd800 ≤ c.toNat) && decide (c.toNat ≤ 0xdbff)) = true) := by
        simp only [Bool.and_eq_true, decide_eq_true_eq]
        omega
      have hany : ¬((decide (0xd800 ≤ c.toNat) && decide (c.toNat ≤ 0xdfff)) = true) := by
        simp only [Bool.and_eq_true, decide_eq_true_eq]
        omega
      cases chars with
      | nil =>
          rw [List.map_cons, List.map_nil, Reader.ofUnits?, if_neg hany, Char.ofNat_toNat]
      | cons d chars =>
          rw [List.map_cons] at ih
          rw [List.map_cons, List.map_cons, Reader.ofUnits?, if_neg hlow, if_neg hhigh, ih,
            Option.map_some, Char.ofNat_toNat]

theorem length_le_length_flatMap_escaped (chars : List Char) :
    chars.length ≤ (chars.flatMap escaped).length := by
  induction chars with
  | nil => exact Nat.le_refl _
  | cons c chars ih =>
      have hpos : 0 < (escaped c).length := by
        unfold escaped
        repeat' split
        all_goals exact Nat.succ_pos _
      rw [List.flatMap_cons, List.length_cons, List.length_append]
      omega

/-- **A written string is read back.** -/
theorem string?_escaped (text : String) (rest : List Char) :
    Reader.string? (text.toList.flatMap escaped ++ '"' :: rest) = some (some text, rest) := by
  have hlength := length_le_length_flatMap_escaped text.toList
  have hfuel : text.toList.length < (text.toList.flatMap escaped ++ '"' :: rest).length + 1 := by
    rw [List.length_append]
    omega
  rw [Reader.string?, units?_flatMap_escaped text.toList rest hfuel]
  simp [ofUnits?_map_toNat]

end Strings

/-! ## Values -/

mutual

/-- The value as its text says it: an infinite number has no text of its own. -/
def asRead : Json → Json
  | decimal (.infinite _) => null
  | array items => array (itemsAsRead items)
  | object entries => object (entriesAsRead entries)
  | null => null
  | bool value => bool value
  | integer n => integer n
  | decimal (.finite negative mantissa exponent) => decimal (.finite negative mantissa exponent)
  | text value => text value

def itemsAsRead : List Json → List Json
  | [] => []
  | item :: items => asRead item :: itemsAsRead items

def entriesAsRead : List (Option String × Json) → List (Option String × Json)
  | [] => []
  | (key, value) :: entries => (key, asRead value) :: entriesAsRead entries

end

/-- The values that a text can spell. -/
inductive Writable : Json → Prop
  | null : Writable null
  | bool (value : Bool) : Writable (bool value)
  | integer {n : Int} (h : fitsSigned n = true ∨ fitsUnsigned n = true) : Writable (integer n)
  | decimal {negative : Bool} {mantissa : Nat} {exponent : Int}
      (h : IsCanonical mantissa exponent) : Writable (decimal (.finite negative mantissa exponent))
  | infinite (negative : Bool) : Writable (decimal (.infinite negative))
  | text (value : String) : Writable (text (some value))
  | array {items : List Json} (h : ∀ item ∈ items, Writable item) : Writable (array items)
  | object {entries : List (Option String × Json)}
      (hkeys : ∀ entry ∈ entries, entry.1 ≠ none) (hvalues : ∀ entry ∈ entries, Writable entry.2) :
      Writable (object entries)

section Values

variable {style : Style} {depth : Nat} {rest : List Char}

/-- The text begins with a character that is neither blank nor the end of an array. -/
def StartsValue (text : List Char) : Prop :=
  ∃ c others, text = c :: others ∧ Reader.isSpace c = false ∧ c ≠ ']'

theorem skipSpace_of_startsValue {text : List Char} (h : StartsValue text) :
    Reader.skipSpace (text ++ rest) = text ++ rest := by
  obtain ⟨c, others, rfl, hc, _⟩ := h
  exact List.dropWhile_cons_of_neg (by simp [hc])

theorem skipSpace_cons {c : Char} (hc : Reader.isSpace c = false) :
    Reader.skipSpace (c :: rest) = c :: rest :=
  List.dropWhile_cons_of_neg (by simp [hc])

theorem skipSpace_lineBreak : Reader.skipSpace (lineBreak style depth ++ rest) =
    Reader.skipSpace rest := by
  cases style with
  | compact => rfl
  | pretty =>
      have hblank : ∀ c ∈ lineBreak .pretty depth, Reader.isSpace c = true := by
        intro c hc
        rcases List.mem_cons.mp hc with rfl | hc
        · rfl
        · rw [List.eq_of_mem_replicate hc]
          rfl
      exact List.dropWhile_append_of_pos hblank

/-- Blanks in front of a value do not matter. -/
theorem value?_congr {fuel : Nat} {source other : List Char}
    (h : Reader.skipSpace source = Reader.skipSpace other) :
    Reader.value? fuel source = Reader.value? fuel other := by
  cases fuel with
  | zero => rw [Reader.value?, Reader.value?]
  | succ fuel => rw [Reader.value?, Reader.value?, h]

theorem startsValue_of_isNumeral {text : List Char} (h : IsNumeral text) : StartsValue text := by
  obtain ⟨negative, c, others, rfl, hc⟩ := h
  cases negative with
  | true => exact ⟨'-', c :: others, rfl, rfl, by decide⟩
  | false =>
      refine ⟨c, others, rfl, ?_, ?_⟩
      · simp only [Reader.isSpace, Bool.or_eq_false_iff, decide_eq_false_iff_not]
        refine ⟨⟨⟨?_, ?_⟩, ?_⟩, ?_⟩ <;> rintro rfl <;> exact absurd hc (by decide)
      · rintro rfl
        exact absurd hc (by decide)

/-- What begins like a number is read as one. -/
theorem value?_of_isNumeral {text : List Char} (h : IsNumeral text) (fuel : Nat) :
    Reader.value? (fuel + 1) (text ++ rest) = Reader.number? (text ++ rest) := by
  rw [Reader.value?, skipSpace_of_startsValue (startsValue_of_isNumeral h)]
  obtain ⟨negative, c, others, rfl, hc⟩ := h
  cases negative with
  | true => rfl
  | false =>
      simp only [signText, Bool.false_eq_true, if_false, List.nil_append, List.cons_append]
      -- every other kind of value begins with a character that is no digit
      split
      case h_7 => rfl
      all_goals
        next heq =>
          obtain rfl := (List.cons.inj heq).1
          exact absurd hc (by decide)

/-- A number is read back by itself. -/
theorem value?_charsAt_integer {n : Int} (h : fitsSigned n = true ∨ fitsUnsigned n = true)
    (hrest : EndsNumber rest) (fuel : Nat) :
    Reader.value? (fuel + 1) (charsAt style depth (integer n) ++ rest) =
      some (integer n, rest) := by
  obtain ⟨hnumeral, hread⟩ := number?_integer h hrest
  rw [charsAt, value?_of_isNumeral hnumeral, hread]

theorem value?_charsAt_decimal {negative : Bool} {mantissa : Nat} {exponent : Int}
    (h : IsCanonical mantissa exponent) (hrest : EndsNumber rest) (fuel : Nat) :
    Reader.value? (fuel + 1)
        (charsAt style depth (decimal (.finite negative mantissa exponent)) ++ rest) =
      some (decimal (.finite negative mantissa exponent), rest) := by
  obtain ⟨text, htext, hnumeral, hread⟩ := number?_decimal decimalLayout h hrest
  rw [charsAt, htext, Option.getD_some, value?_of_isNumeral hnumeral, hread]

theorem charsAt_infinite (negative : Bool) :
    charsAt style depth (decimal (.infinite negative)) = ['n', 'u', 'l', 'l'] := by
  simp [charsAt, Binary64.text?]

theorem quoted_append (text : String) :
    quoted text ++ rest = '"' :: (text.toList.flatMap escaped ++ '"' :: rest) := by
  simp [quoted]

/-- A string is read back by itself. -/
theorem value?_quoted (text : String) (fuel : Nat) :
    Reader.value? (fuel + 1) (quoted text ++ rest) = some (.text (some text), rest) := by
  have hread := string?_escaped text rest
  rw [quoted_append, Reader.value?, skipSpace_cons rfl]
  simp [hread]

/-- An array is read back if its items are. -/
theorem value?_bracket {fuel : Nat} {source : List Char} {items : List Json}
    (hstart : (Reader.skipSpace source).head? ≠ some ']')
    (hitems : Reader.items? fuel (Reader.skipSpace source) = some (items, rest)) :
    Reader.value? (fuel + 1) ('[' :: source) = some (array items, rest) := by
  rw [Reader.value?, skipSpace_cons rfl]
  simp only
  split
  · next heq =>
      rw [heq] at hstart
      exact absurd rfl hstart
  · rw [hitems]
    rfl

/-- An object is read back if its entries are. -/
theorem value?_brace {fuel : Nat} {source : List Char} {entries : List (Option String × Json)}
    (hstart : (Reader.skipSpace source).head? ≠ some '\x7d')
    (hentries : Reader.entries? fuel (Reader.skipSpace source) = some (entries, rest)) :
    Reader.value? (fuel + 1) ('\x7b' :: source) = some (object entries, rest) := by
  rw [Reader.value?, skipSpace_cons rfl]
  simp only
  split
  · next heq =>
      rw [heq] at hstart
      exact absurd rfl hstart
  · rw [hentries]
    rfl

theorem items?_last {fuel : Nat} {source tail : List Char} {item : Json}
    (hvalue : Reader.value? fuel source = some (item, tail))
    (htail : Reader.skipSpace tail = ']' :: rest) :
    Reader.items? (fuel + 1) source = some ([item], rest) := by
  rw [Reader.items?, hvalue]
  simp only [htail]

theorem items?_more {fuel : Nat} {source tail next : List Char} {item : Json} {items : List Json}
    (hvalue : Reader.value? fuel source = some (item, tail))
    (htail : Reader.skipSpace tail = ',' :: next)
    (hitems : Reader.items? fuel next = some (items, rest)) :
    Reader.items? (fuel + 1) source = some (item :: items, rest) := by
  rw [Reader.items?, hvalue]
  simp only [htail, hitems]
  rfl

/-- Between a colon and the value there are at most blanks. -/
theorem exists_colon_append (style : Style) (after : List Char) :
    ∃ next, colon style ++ after = ':' :: next ∧
      Reader.skipSpace next = Reader.skipSpace after := by
  cases style with
  | compact => exact ⟨after, rfl, rfl⟩
  | pretty => exact ⟨' ' :: after, rfl, rfl⟩

section Entry

variable {fuel : Nat} {key : String} {source after tail : List Char} {value : Json}

theorem entries?_last (hkey : Reader.skipSpace source = quoted key ++ (colon style ++ after))
    (hvalue : Reader.value? fuel after = some (value, tail))
    (htail : Reader.skipSpace tail = '\x7d' :: rest) :
    Reader.entries? (fuel + 1) source = some ([(some key, value)], rest) := by
  obtain ⟨next, hcolon, hblank⟩ := exists_colon_append style after
  rw [← value?_congr hblank] at hvalue
  rw [quoted_append, hcolon] at hkey
  rw [Reader.entries?, hkey]
  simp only [string?_escaped, skipSpace_cons (show Reader.isSpace ':' = false from rfl), hvalue,
    htail]

theorem entries?_more {next : List Char} {entries : List (Option String × Json)}
    (hkey : Reader.skipSpace source = quoted key ++ (colon style ++ after))
    (hvalue : Reader.value? fuel after = some (value, tail))
    (htail : Reader.skipSpace tail = ',' :: next)
    (hentries : Reader.entries? fuel next = some (entries, rest)) :
    Reader.entries? (fuel + 1) source = some ((some key, value) :: entries, rest) := by
  obtain ⟨start, hcolon, hblank⟩ := exists_colon_append style after
  rw [← value?_congr hblank] at hvalue
  rw [quoted_append, hcolon] at hkey
  rw [Reader.entries?, hkey]
  simp only [string?_escaped, skipSpace_cons (show Reader.isSpace ':' = false from rfl), hvalue,
    htail, hentries]
  rfl

end Entry

theorem startsValue_charsAt (style : Style) (depth : Nat) {json : Json} (h : Writable json) :
    StartsValue (charsAt style depth json) := by
  have hend : EndsNumber [] := nofun
  cases h with
  | null => exact ⟨'n', _, by rw [charsAt], rfl, by decide⟩
  | bool value =>
      cases value with
      | true => exact ⟨'t', _, by rw [charsAt], rfl, by decide⟩
      | false => exact ⟨'f', _, by rw [charsAt], rfl, by decide⟩
  | integer h =>
      rw [charsAt]
      exact startsValue_of_isNumeral (number?_integer h hend).1
  | decimal h =>
      obtain ⟨text, htext, hnumeral, _⟩ := number?_decimal decimalLayout h hend
      rw [charsAt, htext, Option.getD_some]
      exact startsValue_of_isNumeral hnumeral
  | infinite negative => exact ⟨'n', _, charsAt_infinite negative, rfl, by decide⟩
  | text value => exact ⟨'"', _, by rw [charsAt, quoted]; rfl, rfl, by decide⟩
  | array h =>
      rename_i items
      cases items with
      | nil => exact ⟨'[', _, by rw [charsAt], rfl, by decide⟩
      | cons item items => exact ⟨'[', _, by rw [charsAt]; rfl, rfl, by decide⟩
  | object hkeys hvalues =>
      rename_i entries
      cases entries with
      | nil => exact ⟨'\x7b', _, by rw [charsAt], rfl, by decide⟩
      | cons entry entries => exact ⟨'\x7b', _, by rw [charsAt]; rfl, rfl, by decide⟩

/-! ### What follows a value -/

theorem endsNumber_cons {c : Char} (hc : continuesNumber c = false) : EndsNumber (c :: rest) := by
  intro d hd
  obtain rfl : c = d := by simpa using hd
  exact hc

theorem endsNumber_lineBreak {c : Char} (hc : continuesNumber c = false) :
    EndsNumber (lineBreak style depth ++ c :: rest) := by
  cases style with
  | compact => exact endsNumber_cons hc
  | pretty => exact endsNumber_cons rfl

theorem endsNumber_itemsAt {outer : Nat} (items : List Json) :
    EndsNumber (itemsAt style depth items ++ (lineBreak style outer ++ ']' :: rest)) := by
  cases items with
  | nil =>
      rw [itemsAt]
      exact endsNumber_lineBreak rfl
  | cons item items =>
      rw [itemsAt]
      exact endsNumber_cons rfl

theorem endsNumber_entriesAt {outer : Nat} (entries : List (Option String × Json)) :
    EndsNumber (entriesAt style depth entries ++ (lineBreak style outer ++ '\x7d' :: rest)) := by
  cases entries with
  | nil =>
      rw [entriesAt]
      exact endsNumber_lineBreak rfl
  | cons entry entries =>
      rw [entriesAt]
      exact endsNumber_cons rfl

end Values

/-! ### One step more -/

/-- With so many steps everything that is no longer is read back: a value, the items of an array
from one on with the closing bracket, and the entries of an object from one on with the closing
brace. -/
structure ReadsWritten (style : Style) (fuel : Nat) : Prop where
  value : ∀ (depth : Nat) {json : Json} {rest : List Char}, Writable json → EndsNumber rest →
    (charsAt style depth json).length ≤ fuel →
      Reader.value? fuel (charsAt style depth json ++ rest) = some (json.asRead, rest)
  items : ∀ (depth outer : Nat) {item : Json} {items : List Json} {source rest : List Char},
    (∀ each ∈ item :: items, Writable each) →
    Reader.skipSpace source = charsAt style depth item ++
      (itemsAt style depth items ++ (lineBreak style outer ++ ']' :: rest)) →
    (charsAt style depth item).length + (itemsAt style depth items).length < fuel →
      Reader.items? fuel source = some (itemsAsRead (item :: items), rest)
  entries : ∀ (depth outer : Nat) {key : String} {value : Json}
      {entries : List (Option String × Json)} {source rest : List Char}, Writable value →
    (∀ each ∈ entries, each.1 ≠ none) → (∀ each ∈ entries, Writable each.2) →
    Reader.skipSpace source = quoted key ++ (colon style ++ (charsAt style depth value ++
      (entriesAt style depth entries ++ (lineBreak style outer ++ '\x7d' :: rest)))) →
    (charsAt style depth value).length + (entriesAt style depth entries).length < fuel →
      Reader.entries? fuel source = some (entriesAsRead ((some key, value) :: entries), rest)

namespace ReadsWritten

variable {style : Style} {fuel : Nat}

theorem items_succ (h : ReadsWritten style fuel) (depth outer : Nat) {item : Json}
    {items : List Json} {source rest : List Char} (hitems : ∀ each ∈ item :: items, Writable each)
    (hsource : Reader.skipSpace source = charsAt style depth item ++
      (itemsAt style depth items ++ (lineBreak style outer ++ ']' :: rest)))
    (hfuel : (charsAt style depth item).length + (itemsAt style depth items).length < fuel + 1) :
    Reader.items? (fuel + 1) source = some (itemsAsRead (item :: items), rest) := by
  have hitem := hitems item List.mem_cons_self
  have hvalue : Reader.value? fuel source = some (item.asRead, itemsAt style depth items ++
      (lineBreak style outer ++ ']' :: rest)) := by
    have hstarts := startsValue_charsAt style depth hitem
    rw [value?_congr (hsource.trans (skipSpace_of_startsValue hstarts).symm)]
    exact h.value depth hitem (endsNumber_itemsAt items) (by omega)
  cases items with
  | nil =>
      apply items?_last hvalue
      rw [itemsAt, List.nil_append, skipSpace_lineBreak, skipSpace_cons rfl]
  | cons next items =>
      rw [itemsAt] at hvalue hfuel
      simp only [List.cons_append, List.append_assoc] at hvalue
      simp only [List.cons_append, List.length_cons, List.length_append] at hfuel
      have hlater : ∀ each ∈ next :: items, Writable each :=
        fun each heach => hitems each (List.mem_cons_of_mem _ heach)
      have hnext := startsValue_charsAt style depth (hlater next List.mem_cons_self)
      refine items?_more hvalue (skipSpace_cons rfl) (h.items depth outer hlater ?_ (by omega))
      rw [skipSpace_lineBreak, skipSpace_of_startsValue hnext]

theorem entries_succ (h : ReadsWritten style fuel) (depth outer : Nat) {key : String}
    {value : Json} {entries : List (Option String × Json)} {source rest : List Char}
    (hjson : Writable value) (hkeys : ∀ each ∈ entries, each.1 ≠ none)
    (hvalues : ∀ each ∈ entries, Writable each.2)
    (hsource : Reader.skipSpace source = quoted key ++ (colon style ++ (charsAt style depth value ++
      (entriesAt style depth entries ++ (lineBreak style outer ++ '\x7d' :: rest)))))
    (hfuel : (charsAt style depth value).length + (entriesAt style depth entries).length <
      fuel + 1) :
    Reader.entries? (fuel + 1) source =
      some (entriesAsRead ((some key, value) :: entries), rest) := by
  have hvalue : Reader.value? fuel (charsAt style depth value ++ (entriesAt style depth entries ++
      (lineBreak style outer ++ '\x7d' :: rest))) = some (value.asRead, entriesAt style depth entries ++
      (lineBreak style outer ++ '\x7d' :: rest)) :=
    h.value depth hjson (endsNumber_entriesAt entries) (by omega)
  cases entries with
  | nil =>
      apply entries?_last hsource hvalue
      rw [entriesAt, List.nil_append, skipSpace_lineBreak, skipSpace_cons rfl]
  | cons entry entries =>
      obtain ⟨name, next⟩ := entry
      obtain ⟨name, rfl⟩ := Option.ne_none_iff_exists'.mp (hkeys _ List.mem_cons_self)
      rw [entriesAt] at hvalue hfuel hsource
      simp only [List.cons_append, List.append_assoc, Option.getD_some] at hvalue hsource
      simp only [List.cons_append, List.length_cons, List.length_append, Option.getD_some] at hfuel
      have hnext : Writable next := hvalues (some name, next) List.mem_cons_self
      refine entries?_more hsource hvalue (skipSpace_cons rfl) (h.entries depth outer hnext
        (fun each heach => hkeys each (List.mem_cons_of_mem _ heach))
        (fun each heach => hvalues each (List.mem_cons_of_mem _ heach)) ?_ (by omega))
      rw [skipSpace_lineBreak, quoted_append, skipSpace_cons rfl]

theorem value_succ (h : ReadsWritten style fuel) (depth : Nat) {json : Json} {rest : List Char}
    (hjson : Writable json) (hrest : EndsNumber rest)
    (hfuel : (charsAt style depth json).length ≤ fuel + 1) :
    Reader.value? (fuel + 1) (charsAt style depth json ++ rest) = some (json.asRead, rest) := by
  cases hjson with
  | null => rw [charsAt, asRead]; rfl
  | bool value => cases value <;> rw [charsAt, asRead] <;> rfl
  | integer hfits =>
      rw [asRead]
      exact value?_charsAt_integer hfits hrest fuel
  | decimal hcanonical =>
      rw [asRead]
      exact value?_charsAt_decimal hcanonical hrest fuel
  | infinite negative => rw [charsAt_infinite, asRead]; rfl
  | text value =>
      rw [charsAt, asRead]
      exact value?_quoted value fuel
  | array hitems =>
      rename_i items
      cases items with
      | nil => rw [charsAt, asRead]; rfl
      | cons item items =>
          have hstarts : StartsValue (charsAt style (depth + 1) item) :=
            startsValue_charsAt style _ (hitems item List.mem_cons_self)
          rw [charsAt] at hfuel ⊢
          rw [asRead]
          simp only [List.cons_append, List.append_assoc, List.nil_append]
          simp only [List.cons_append, List.length_cons, List.length_append] at hfuel
          apply value?_bracket
          · rw [skipSpace_lineBreak, skipSpace_of_startsValue hstarts]
            obtain ⟨c, others, heq, _, hc⟩ := hstarts
            simpa [heq] using hc
          · refine h.items (depth + 1) depth hitems ?_ (by omega)
            rw [skipSpace_lineBreak, skipSpace_of_startsValue hstarts,
              skipSpace_of_startsValue hstarts]
  | object hkeys hvalues =>
      rename_i entries
      cases entries with
      | nil => rw [charsAt, asRead]; rfl
      | cons entry entries =>
          obtain ⟨key, value⟩ := entry
          obtain ⟨key, rfl⟩ := Option.ne_none_iff_exists'.mp (hkeys _ List.mem_cons_self)
          rw [charsAt] at hfuel ⊢
          rw [asRead]
          simp only [List.cons_append, List.append_assoc, List.nil_append, Option.getD_some]
          simp only [List.cons_append, List.length_cons, List.length_append, Option.getD_some]
            at hfuel
          apply value?_brace
          · rw [skipSpace_lineBreak, quoted_append, skipSpace_cons rfl]
            simp
          · have hvalue : Writable value := hvalues (some key, value) List.mem_cons_self
            refine h.entries (depth + 1) depth hvalue
              (fun each heach => hkeys each (List.mem_cons_of_mem _ heach))
              (fun each heach => hvalues each (List.mem_cons_of_mem _ heach)) ?_ (by omega)
            rw [skipSpace_lineBreak, quoted_append, skipSpace_cons rfl, skipSpace_cons rfl]

/-- Any number of steps reads what is no longer. -/
theorem all (style : Style) (fuel : Nat) : ReadsWritten style fuel := by
  induction fuel with
  | zero =>
      constructor
      · intro depth json rest hjson _ hfuel
        obtain ⟨c, others, heq, _⟩ := startsValue_charsAt style depth hjson
        simp [heq] at hfuel
      · intros
        omega
      · intros
        omega
  | succ fuel ih => exact ⟨ih.value_succ, ih.items_succ, ih.entries_succ⟩

end ReadsWritten

/-- **What is written is read back**, in either style. -/
theorem parse?_render (style : Style) {json : Json} (h : Writable json) :
    parse? (render style json) = some json.asRead := by
  have hend : EndsNumber [] := nofun
  have hread := (ReadsWritten.all style (2 * (charsAt style 0 json).length + 2)).value 0 h hend
    (by omega)
  rw [List.append_nil] at hread
  rw [parse?, render, String.toList_ofList, hread]
  rfl

end WorkflowGraph.Json
