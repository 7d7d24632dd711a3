import WorkflowGraph.Text.Lossy

/-!
# Names in directories

A directory takes any bytes for a name.  Most names are texts, written in UTF-8; one that is not
still has its place among the others, since names stand in the order of their bytes, and it is
shown with marks in it.
-/

namespace WorkflowGraph

/-- The name of something in a directory. -/
structure FileName where
  bytes : List UInt8
deriving DecidableEq, Repr

namespace FileName

/-- The name that is written as the text. -/
@[coe] def ofText (text : String) : FileName := ⟨text.toUTF8.data.toList⟩

instance : Coe String FileName := ⟨ofText⟩

/-- The text as which the name is written, if there is one. -/
def text? (name : FileName) : Option String := String.fromUTF8? ⟨⟨name.bytes⟩⟩

/-- The name in a message or in a path that is shown. -/
def shown (name : FileName) : String := name.text?.getD (Text.lossy name.bytes)

instance : LT FileName := ⟨fun a b => a.bytes < b.bytes⟩

instance (a b : FileName) : Decidable (a < b) := inferInstanceAs (Decidable (a.bytes < b.bytes))

/-- The order of the bytes of two names. -/
def precedes (a b : FileName) : Bool := !(b < a)

end FileName

end WorkflowGraph
