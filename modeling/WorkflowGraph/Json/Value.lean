import WorkflowGraph.Number.Binary64

/-!
# JSON values

A value as the text of a document spells it.  An integer is one that fits into 64 bits, with or
without a sign; every other number is a floating-point number, and one that is too large for
that is infinite.  The text of a string can spell half of a surrogate pair, and then it has no
value: such a string may stand where nobody looks at it, but cannot be used.
-/

namespace WorkflowGraph

/-- A value of a JSON document. -/
inductive Json where
  | null
  | bool (value : Bool)
  | integer (value : Int)
  | decimal (value : Number.Binary64)
  /-- A string; `none` if its escapes spell no text. -/
  | text (value : Option String)
  | array (items : List Json)
  /-- The entries in the order of the document, repeated keys included. -/
  | object (entries : List (Option String × Json))
deriving Repr

namespace Json

instance : Inhabited Json := ⟨null⟩

/-- The string with the given value. -/
def ofText (value : String) : Json := text (some value)

/-- The integer of a count. -/
def ofNat (n : Nat) : Json := integer n

/-- The object with the given entries. -/
def ofFields (fields : List (String × Json)) : Json :=
  object (fields.map fun (key, value) => (some key, value))

/-- The array of the values of a list. -/
def ofList {α : Type} (encode : α → Json) (items : List α) : Json := array (items.map encode)

/-- A value that may be missing; a missing one is `null`. -/
def ofOption {α : Type} (encode : α → Json) : Option α → Json
  | none => null
  | some value => encode value

/-- Where a number changes to exponent notation. -/
def decimalLayout : Number.Binary64.Layout := ⟨-5, 16⟩

end Json

end WorkflowGraph
