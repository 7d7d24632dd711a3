import WorkflowGraph.Files.Name

/-!
# Names and the texts they are written as

A name is a text exactly when its bytes are those of the text, and no two texts have one name
(`FileName.text?_eq_some_iff`, `FileName.ofText_inj`).  So whatever is asked of the text of a name
can be asked of its bytes.  That a name ends in a text is such a question: the bytes at the end of a
name are those of a text only if the text ends in it, since no character begins within another one
(`FileName.endsIn_ofText_iff`).
-/

namespace WorkflowGraph.FileName

variable {name first second third : FileName} {text ending : String}

/-- A name is read as a text exactly if it is the name of the text. -/
theorem text?_eq_some_iff : name.text? = some text ↔ name = ofText text := by
  obtain ⟨bytes⟩ := name
  rw [text?, String.fromUTF8?]
  constructor
  · intro h
    split at h
    · next hvalid =>
        cases h
        rfl
    · cases h
  · intro h
    cases h
    exact dif_pos text.isValidUTF8

@[simp] theorem text?_ofText (text : String) : (ofText text).text? = some text :=
  text?_eq_some_iff.mpr rfl

/-- Texts with one name are one text. -/
@[simp] theorem ofText_inj {a b : String} : ofText a = ofText b ↔ a = b := by
  rw [← text?_eq_some_iff, text?_ofText, Option.some.injEq]

/-- A text is shown as it is; only other bytes are replaced. -/
@[simp] theorem shown_ofText (text : String) : (ofText text).shown = text := by
  rw [shown, text?_ofText, Option.getD_some]

/-- The last bytes of the name are those of the text. -/
def EndsIn (ending : String) (name : FileName) : Prop :=
  ∃ front, name.bytes = front ++ (ofText ending).bytes

/-- What stands before a text in the bytes of another text is a text. -/
theorem exists_eq_append {front : ByteArray} (h : text.toByteArray = front ++ ending.toByteArray) :
    ∃ before, text = before ++ ending := by
  have hsize : text.utf8ByteSize = front.size + ending.toByteArray.size := by
    rw [← String.size_toByteArray, h, ByteArray.size_append]
  have hend : (⟨front.size⟩ : String.Pos.Raw) ≤ text.rawEndPos := by
    rw [String.Pos.Raw.le_iff, String.byteIdx_rawEndPos, hsize]
    exact Nat.le_add_right _ _
  -- the cut is before a text, so it is between two characters, and what is before it is a text too
  have hback : text.toByteArray.extract front.size text.utf8ByteSize = ending.toByteArray := by
    rw [h]
    exact ByteArray.extract_append_eq_right rfl hsize
  have hcut : String.Pos.Raw.IsValid text ⟨front.size⟩ :=
    String.Pos.Raw.isValid_iff_isValidUTF8_extract_utf8ByteSize.mpr
      ⟨hend, hback ▸ ending.isValidUTF8⟩
  have hfront : text.toByteArray.extract 0 front.size = front := by
    rw [h]
    exact ByteArray.extract_append_eq_left rfl
  have hvalid : (text.toByteArray.extract 0 front.size).IsValidUTF8 :=
    (String.Pos.Raw.isValid_iff_isValidUTF8_extract_zero.mp hcut).2
  rw [hfront] at hvalid
  refine ⟨.ofByteArray front hvalid, ?_⟩
  rw [← String.toByteArray_inj, h, String.toByteArray_append]

/-- **A text ends in another one when its bytes do.** -/
theorem endsIn_ofText_iff : (ofText text).EndsIn ending ↔ ∃ front, text = front ++ ending := by
  constructor
  · rintro ⟨front, hfront⟩
    have hbytes : text.toByteArray = ⟨⟨front⟩⟩ ++ ending.toByteArray := by
      apply ByteArray.ext
      apply Array.toList_inj.mp
      rw [ByteArray.data_append, Array.toList_append]
      exact hfront
    exact exists_eq_append hbytes
  · rintro ⟨front, rfl⟩
    refine ⟨(ofText front).bytes, ?_⟩
    simp [ofText]

/-! ## The order of names -/

theorem lt_iff : first < second ↔ first.bytes < second.bytes := Iff.rfl

instance : Std.Asymm fun a b : FileName => a < b := ⟨fun _ _ => List.lt_asymm⟩

instance : Std.Irrefl fun a b : FileName => a < b := ⟨fun a => List.lt_irrefl a.bytes⟩

/-- Entries are sorted by the order of lists of bytes. -/
theorem precedes_iff : precedes first second = true ↔ first.bytes ≤ second.bytes := by
  rw [precedes, Bool.not_eq_true', decide_eq_false_iff_not, lt_iff, List.not_lt]

/-- With `precedes_total`, this is what sorting asks of an order. -/
theorem precedes_trans (hfirst : precedes first second) (hsecond : precedes second third) :
    precedes first third :=
  precedes_iff.mpr (List.le_trans (precedes_iff.mp hfirst) (precedes_iff.mp hsecond))

theorem precedes_total (first second : FileName) :
    (precedes first second || precedes second first) = true := by
  rw [Bool.or_eq_true, precedes_iff, precedes_iff]
  exact List.le_total _ _

/-- Of two names that differ the one that precedes is less. -/
theorem lt_of_precedes (h : precedes first second) (hne : first ≠ second) : first < second := by
  refine Decidable.byContradiction fun hnot => hne ?_
  have hbytes := List.le_antisymm (precedes_iff.mp h) (List.not_lt.mp hnot)
  cases first
  cases second
  cases hbytes
  rfl

end WorkflowGraph.FileName
