import WorkflowGraph.Text.CaseFold
import WorkflowGraph.Text.Property
import WorkflowGraph.Text.Script

/-!
# Classes of characters in patterns

A class is a set of characters: a range, a class with a name, or what set operations make of
others.
-/

namespace WorkflowGraph.Pattern

/-- A set of characters, and how many ranges it takes to write it. -/
structure CharClass where
  accepts : Char → Bool
  ranges : Nat

namespace CharClass

def nothing : CharClass := ⟨fun _ => false, 0⟩

def single (c : Char) : CharClass := ⟨(· == c), 1⟩

def range (low high : Char) : CharClass := ⟨fun c => low ≤ c && c ≤ high, 1⟩

def ofRanges (table : Text.Ranges) : CharClass := ⟨table.contains, table.bounds.length⟩

def ofBounds (bounds : List (Char × Char)) : CharClass :=
  ofRanges ⟨bounds.map fun (low, high) => (low.toNat, high.toNat)⟩

def union (a b : CharClass) : CharClass := ⟨fun c => a.accepts c || b.accepts c, a.ranges + b.ranges⟩

def intersection (a b : CharClass) : CharClass :=
  ⟨fun c => a.accepts c && b.accepts c, max a.ranges b.ranges⟩

def difference (a b : CharClass) : CharClass :=
  ⟨fun c => a.accepts c && !b.accepts c, a.ranges + b.ranges⟩

def symmetricDifference (a b : CharClass) : CharClass :=
  ⟨fun c => a.accepts c != b.accepts c, a.ranges + b.ranges⟩

def complement (a : CharClass) : CharClass := ⟨fun c => !a.accepts c, a.ranges + 1⟩

/-- The other case of an ASCII letter. -/
def asciiVariants (c : Char) : List Char :=
  if c.isLower then [c, c.toUpper] else if c.isUpper then [c, c.toLower] else [c]

/-- The class with all characters that differ from its own only in case. -/
def folded (a : CharClass) (unicode : Bool) : CharClass :=
  ⟨fun c => (if unicode then Text.caseVariants c else asciiVariants c).any a.accepts, 2 * a.ranges⟩

/-! ## Classes with names -/

def digit : CharClass := ofRanges (Text.categoriesOf ["nd"])

/-- The characters of words: letters, marks, digits, connectors and joiners. -/
def wordRanges : Text.Ranges :=
  ⟨(((Text.properties.find? fun entry => entry.1.contains "alphabetic").map fun entry =>
      (Text.Ranges.ofText entry.2).bounds).getD []) ++
    (Text.categoriesOf ["mn", "mc", "me", "nd", "pc"]).bounds ++ [(0x200c, 0x200d)]⟩

def word : CharClass := ofRanges wordRanges

def space : CharClass := ⟨Text.isBlank, 10⟩

def asciiDigit : CharClass := range '0' '9'

def asciiWord : CharClass := ofBounds [('0', '9'), ('A', 'Z'), ('_', '_'), ('a', 'z')]

def asciiSpace : CharClass := ofBounds [('\t', '\r'), (' ', ' ')]

/-- The class of a letter after a backslash, in lower case. -/
def ofLetter? (unicode : Bool) (letter : Char) : Option CharClass :=
  if letter = 'd' then some (if unicode then digit else asciiDigit)
  else if letter = 'w' then some (if unicode then word else asciiWord)
  else if letter = 's' then some (if unicode then space else asciiSpace)
  else none

/-- The classes of ASCII characters with names. -/
def asciiClasses : List (String × List (Char × Char)) :=
  [("alnum", [('0', '9'), ('A', 'Z'), ('a', 'z')]),
   ("alpha", [('A', 'Z'), ('a', 'z')]),
   ("ascii", [('\x00', '\x7f')]),
   ("blank", [('\t', '\t'), (' ', ' ')]),
   ("cntrl", [('\x00', '\x1f'), ('\x7f', '\x7f')]),
   ("digit", [('0', '9')]),
   ("graph", [('!', '~')]),
   ("lower", [('a', 'z')]),
   ("print", [(' ', '~')]),
   ("punct", [('!', '/'), (':', '@'), ('[', '\x60'), ('\x7b', '~')]),
   ("space", [('\t', '\r'), (' ', ' ')]),
   ("upper", [('A', 'Z')]),
   ("word", [('0', '9'), ('A', 'Z'), ('_', '_'), ('a', 'z')]),
   ("xdigit", [('0', '9'), ('A', 'F'), ('a', 'f')])]

/-- The class of ASCII characters with the given name. -/
def ascii? (name : String) : Option CharClass := (asciiClasses.lookup name).map ofBounds

/-! ## Properties -/

/-- The name of a property without case, blanks, underscores, hyphens and a leading `is`. -/
def plainName (name : List Char) : String :=
  let bare := fun (text : List Char) =>
    String.ofList (((text.filter fun c => c != ' ' && c != '_' && c != '-').filter
      fun c => c.toNat < 128).map Char.toLower)
  match name with
  | a :: b :: rest =>
    if a.toLower = 'i' && b.toLower = 's' then
      if bare rest = "c" then "isc" else bare rest
    else bare name
  | _ => bare name

/-- The class of a general category, or of one of the names for all characters, all assigned
ones and all of ASCII. -/
def category? (name : String) : Option CharClass :=
  if name = "any" then some ⟨fun _ => true, 1⟩
  else if name = "ascii" then some (range '\x00' '\x7f')
  else if name = "assigned" then some (ofRanges Text.assigned)
  else if name = "cn" || name = "unassigned" then some (ofRanges Text.assigned).complement
  else if name = "c" || name = "other" then
    some ((ofRanges Text.assigned).complement.union (ofRanges (Text.categoriesOf ["cc", "cf", "co"])))
  else (Text.categoryOrGroup? name).map ofRanges

/-- The class of a script. -/
def script? (name : String) : Option CharClass := (Text.script? name).map ofRanges

/-- The class that a single name stands for: a property, a category or a script. -/
def ofName? (name : List Char) : Option CharClass :=
  let name := plainName name
  let property :=
    if name = "cf" || name = "sc" || name = "lc" then none
    else (Text.property? name).map fun isMember => (⟨isMember, 500⟩ : CharClass)
  match property with
  | some found => some found
  | none =>
    match category? name with
    | some found => some found
    | none => script? name

/-- The class of a value of a property. -/
def ofValue? (property value : List Char) : Option CharClass :=
  let property := plainName property
  let value := plainName value
  if property = "gc" || property = "generalcategory" then category? value
  else if property = "sc" || property = "script" || property = "scx" ||
      property = "scriptextensions" then script? value
  else none

/-- The class of what stands between the braces of a property, and whether it is meant to be the
opposite. -/
def ofProperty? (name : List Char) : Option (CharClass × Bool) :=
  match cut ['!', '='] name with
  | some (property, value) => (ofValue? property value).map fun found => (found, true)
  | none =>
    match cut [':'] name with
    | some (property, value) => (ofValue? property value).map fun found => (found, false)
    | none =>
      match cut ['='] name with
      | some (property, value) => (ofValue? property value).map fun found => (found, false)
      | none => (ofName? name).map fun found => (found, false)
where
  /-- The part before the first occurrence of a mark and the part after it. -/
  cut (mark : List Char) : List Char → Option (List Char × List Char)
    | [] => none
    | c :: rest =>
      if mark.isPrefixOf (c :: rest) then some ([], (c :: rest).drop mark.length)
      else (cut mark rest).map fun (before, after) => (c :: before, after)

end CharClass

end WorkflowGraph.Pattern
