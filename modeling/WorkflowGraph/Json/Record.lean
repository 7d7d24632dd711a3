import WorkflowGraph.Json.Value

/-!
# Reading typed values from JSON

Plain values are read strictly: an integer is never read from a floating-point number, but a
floating-point number may be written as an integer.  A record is read from an object, in which
every field stands at most once and other entries do not matter, or from an array of all its
fields in order.
-/

namespace WorkflowGraph.Json

def bool? : Json → Option Bool
  | bool value => some value
  | _ => none

def text? : Json → Option String
  | text value => value
  | _ => none

/-- A natural number of 64 bits. -/
def nat? : Json → Option Nat
  | integer n => if Number.fitsUnsigned n then some n.toNat else none
  | _ => none

/-- An integer of 64 bits with a sign. -/
def int? : Json → Option Int
  | integer n => if Number.fitsSigned n then some n else none
  | _ => none

/-- A finite floating-point number. -/
def decimal? : Json → Option Number.Binary64
  | integer n => some (.ofInt n)
  | decimal (.finite negative mantissa exponent) => some (.finite negative mantissa exponent)
  | _ => none

/-- The items of an array, each read in the same way. -/
def list? {α : Type} (decode : Json → Option α) : Json → Option (List α)
  | array items => items.mapM decode
  | _ => none

/-- The entries of an object with their keys. -/
def entries? : Json → Option (List (String × Json))
  | object entries => entries.mapM fun (key, value) => key.map fun key => (key, value)
  | _ => none

/-- One of finitely many choices by its name, or an object with the name as its only key and
`null` as its value. -/
def choice? {α : Type} (choices : List (String × α)) : Json → Option α
  | text (some name) => choices.lookup name
  | object [(some name, null)] => choices.lookup name
  | _ => none

/-- The fields of a record: the value of every name that has one. -/
def Fields : Type := String → Option Json

/-- The fields of a record with the given names. -/
def record? (names : List String) : Json → Option Fields
  | object entries =>
    let keys := entries.map Prod.fst
    if keys.contains none then none
    else if names.any fun name => keys.count (some name) > 1 then none
    else some fun name => entries.lookup (some name)
  | array items =>
    if items.length = names.length then some fun name => (names.zip items).lookup name else none
  | _ => none

/-- A field that must be there. -/
def Fields.required {α : Type} (fields : Fields) (name : String) (decode : Json → Option α) :
    Option α :=
  (fields name).bind decode

/-- A field that may be missing or `null`. -/
def Fields.optional {α : Type} (fields : Fields) (name : String) (decode : Json → Option α) :
    Option (Option α) :=
  match fields name with
  | none => some none
  | some null => some none
  | some value => (decode value).map some

end WorkflowGraph.Json
