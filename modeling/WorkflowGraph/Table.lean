/-!
# Tables

A table gives values to text keys.  It remembers the order in which the keys came, and every
key has one value: `Table.nodup`.  What a table says does not depend on the order, and
`Table.sortedKeys` lists the keys in the order of their characters wherever an order shows.
-/

namespace WorkflowGraph

/-- A finite map from texts, in the order in which the keys came. -/
structure Table (α : Type) where
  entries : List (String × α)
  /-- Every key occurs once. -/
  nodup : (entries.map Prod.fst).Nodup

namespace Table

variable {α : Type}

instance [DecidableEq α] : DecidableEq (Table α) := fun a b =>
  if h : a.entries = b.entries then
    isTrue (by cases a; cases b; cases h; rfl)
  else isFalse (fun e => h (by rw [e]))

instance [Repr α] : Repr (Table α) := ⟨fun table n => reprPrec table.entries n⟩

/-- The table without entries. -/
def empty : Table α := ⟨[], List.nodup_nil⟩

instance : Inhabited (Table α) := ⟨empty⟩

/-- The keys in the order in which they came. -/
def keys (table : Table α) : List String := table.entries.map Prod.fst

/-- The values in the order of their keys. -/
def values (table : Table α) : List α := table.entries.map Prod.snd

def size (table : Table α) : Nat := table.entries.length

def isEmpty (table : Table α) : Bool := table.entries.isEmpty

/-- The value of a key. -/
def get? (table : Table α) (key : String) : Option α :=
  (table.entries.find? fun entry => entry.1 == key).map Prod.snd

def contains (table : Table α) (key : String) : Bool := table.keys.contains key

/-- Changes the value of a key, if the key is there. -/
def modify (table : Table α) (key : String) (change : α → α) : Table α where
  entries := table.entries.map fun entry =>
    if entry.1 == key then (entry.1, change entry.2) else entry
  nodup := by
    have same : (table.entries.map fun entry =>
        if entry.1 == key then (entry.1, change entry.2) else entry).map Prod.fst =
        table.entries.map Prod.fst := by
      rw [List.map_map]
      apply List.map_congr_left
      intro entry _
      show (if entry.1 == key then (entry.1, change entry.2) else entry).1 = entry.1
      split <;> rfl
    rw [same]
    exact table.nodup

/-- Gives a key a value: a new key goes to the end, an old one keeps its place. -/
def insert (table : Table α) (key : String) (value : α) : Table α :=
  if h : table.contains key = true then table.modify key fun _ => value
  else
    { entries := table.entries ++ [(key, value)]
      nodup := by
        have absent : key ∉ table.entries.map Prod.fst := by
          simpa [contains, keys] using h
        rw [List.map_append, List.nodup_append]
        refine ⟨table.nodup, by simp, ?_⟩
        intro a ha b hb
        have : b = key := by simpa using hb
        subst this
        intro hab
        exact absent (hab ▸ ha) }

/-- Gives a value to a key that has none; a key that is there keeps its value. -/
def insertNew (table : Table α) (key : String) (value : α) : Table α :=
  if table.contains key then table else table.insert key value

/-- Takes a key out. -/
def erase (table : Table α) (key : String) : Table α where
  entries := table.entries.filter fun entry => entry.1 != key
  nodup := table.nodup.sublist (List.filter_sublist.map Prod.fst)

/-- The table of a list of entries; of a key that comes more than once the last value counts. -/
def ofList (entries : List (String × α)) : Table α :=
  entries.foldl (fun table entry => table.insert entry.1 entry.2) empty

end Table

/-- The order of the characters of two texts. -/
def precedes (a b : String) : Bool := !(b < a)

/-- Texts in the order of their characters. -/
def sortTexts (texts : List String) : List String := texts.mergeSort precedes

/-- A sorted list without neighbours that are equal. -/
def dropRepeats : List String → List String
  | a :: b :: rest => if a = b then dropRepeats (b :: rest) else a :: dropRepeats (b :: rest)
  | short => short

/-- The keys of a table in the order of their characters. -/
def Table.sortedKeys {α : Type} (table : Table α) : List String := sortTexts table.keys

end WorkflowGraph
