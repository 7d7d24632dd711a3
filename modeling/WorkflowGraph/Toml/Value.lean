/-!
# TOML values

A document is a table, and a table can come about in several ways: by a header of its own, on the
way to the table of another header, by a key with dots, or as a value between braces.  The form
of a table decides what may still be added to it.
-/

namespace WorkflowGraph

/-- How a table came about. -/
inductive TableForm where
  /-- The table of a header, or of the whole document. -/
  | header
  /-- On the way to the table of a header. -/
  | implied
  /-- By a key with dots. -/
  | dotted
  /-- A value between braces. -/
  | inline
  /-- By a key with dots between braces. -/
  | inlineDotted
deriving DecidableEq, Repr

/-- A TOML value.  The content of dates and of numbers with a fraction is of no interest. -/
inductive Toml where
  | text (value : String)
  | integer (value : Int)
  | decimal
  | bool (value : Bool)
  | moment
  | array (items : List Toml)
  | table (form : TableForm) (entries : List (String × Toml))
  /-- The tables of headers in double brackets. -/
  | tables (items : List (List (String × Toml)))

namespace Toml

/-- The entries of a table by their keys. -/
abbrev Entries : Type := List (String × Toml)

/-- The entries with a value under a key; a new key comes last. -/
def setEntry (key : String) (value : Toml) : Entries → Entries
  | [] => [(key, value)]
  | (other, old) :: entries =>
    if other = key then (key, value) :: entries else (other, old) :: setEntry key value entries

/-- The entries without a key. -/
def dropEntry (key : String) (entries : Entries) : Entries :=
  entries.filter fun entry => entry.1 ≠ key

/-! ## Adding to tables -/

/-- Whether a table with this form may be entered, for a key with dots or for a header. -/
def mayEnter (made : TableForm) : TableForm → Bool
  | .header => made = .implied
  | .implied => made = .implied || made = .dotted
  | .dotted => made = .implied || made = .dotted
  | .inline => false
  | .inlineDotted => made = .inlineDotted

/-- Changes the table at the end of a path.  Tables on the way that are missing are made in the
given form; where there is a list of tables, the last one is meant. -/
def changeAt (made : TableForm) (change : TableForm → Entries → Option (TableForm × Entries)) :
    List String → TableForm → Entries → Option (TableForm × Entries)
  | [], form, entries => change form entries
  | key :: path, form, entries =>
    match entries.lookup key with
    | none =>
      (changeAt made change path made []).map fun (inner, below) =>
        (form, setEntry key (.table inner below) entries)
    | some (.table inner below) =>
      if mayEnter made inner then
        (changeAt made change path inner below).map fun (inner, below) =>
          (form, setEntry key (.table inner below) entries)
      else none
    | some (.tables items) =>
      match items.reverse with
      | [] => none
      | last :: others =>
        if made = .inlineDotted then none
        else
          (changeAt made change path .header last).map fun (_, below) =>
            (form, setEntry key (.tables (others.reverse ++ [below])) entries)
    | some _ => none

/-- Adds an entry with a new key.  The table itself must have come about by dots if and only if
dots lead to it. -/
def addEntry (dots : Bool) (key : String) (value : Toml) (form : TableForm) (entries : Entries) :
    Option (TableForm × Entries) :=
  if (form = .dotted || form = .inlineDotted) != dots then none
  else if (entries.lookup key).isSome then none
  else some (form, entries ++ [(key, value)])

/-- Sets the value of a key with dots; `made` is the form of the tables that the dots make. -/
def setKey (made : TableForm) (path : List String) (key : String) (value : Toml)
    (form : TableForm) (entries : Entries) : Option (TableForm × Entries) :=
  changeAt made (addEntry (!path.isEmpty) key value) path form entries

end Toml

end WorkflowGraph
