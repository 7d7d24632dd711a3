import WorkflowGraph.Number.Digits
import WorkflowGraph.Pattern.Basic
import WorkflowGraph.Pattern.Class

/-!
# Reading patterns

The text of a pattern is read from left to right.  Flags change the meaning of what follows them
within the same group.  What a pattern could capture does not matter, but groups may have names,
each once.  There is no looking ahead or behind and no reference to a group, so that every
pattern can be matched in one pass.
-/

namespace WorkflowGraph.Pattern

/-- What the flags say. -/
structure Flags where
  ignoreCase : Bool := false
  /-- Line ends count for `^` and `$`. -/
  multiLine : Bool := false
  /-- The dot matches line ends. -/
  dotAll : Bool := false
  /-- A carriage return ends a line as well. -/
  crlf : Bool := false
  /-- Blanks and comments in the pattern are ignored. -/
  extended : Bool := false
  /-- Characters outside of ASCII count. -/
  unicode : Bool := true

namespace Reader

/-! ## Blanks and comments -/

/-- Drops blanks and comments; the flag says whether the text starts inside a comment. -/
def dropIgnored : Bool → List Char → List Char
  | _, [] => []
  | true, c :: rest => dropIgnored (c != '\n') rest
  | false, c :: rest =>
    if Text.isBlank c then dropIgnored false rest
    else if c = '#' then dropIgnored true rest
    else c :: rest

/-- Drops blanks and comments where they are ignored. -/
def skip (flags : Flags) (rest : List Char) : List Char :=
  if flags.extended then dropIgnored false rest else rest

/-! ## Escapes -/

/-- What an escape or a plain character stands for. -/
inductive Atom where
  /-- A character; the flag says whether it was written as a byte. -/
  | literal (c : Char) (isByte : Bool)
  | set (chars : CharClass)
  | place (holds : Option Char → Option Char → Bool)

def hexValue? (c : Char) : Option Nat :=
  if c.isDigit then some (c.toNat - '0'.toNat)
  else if 'a' ≤ c && c ≤ 'f' then some (c.toNat - 'a'.toNat + 10)
  else if 'A' ≤ c && c ≤ 'F' then some (c.toNat - 'A'.toNat + 10)
  else none

/-- The character with the given code point. -/
def scalar? (n : Nat) : Option Char := if n.isValidChar then some (Char.ofNat n) else none

/-- A given number of hexadecimal digits. -/
def hexDigits (flags : Flags) : Nat → Nat → List Char → Option (Nat × List Char)
  | 0, value, rest => some (value, rest)
  | count + 1, value, rest =>
    match rest with
    | [] => none
    | c :: rest =>
      match hexValue? c with
      | none => none
      | some digit => hexDigits flags count (16 * value + digit) (skip flags rest)

/-- The characters up to a closing brace; `fuel` bounds their number. -/
def upToBrace (flags : Flags) : Nat → List Char → Option (List Char × List Char)
  | 0, _ => none
  | fuel + 1, rest =>
    match skip flags rest with
    | [] => none
    | '\x7d' :: rest => some ([], rest)
    | c :: rest => (upToBrace flags fuel rest).map fun (inner, rest) => (c :: inner, rest)

/-- The number that hexadecimal digits spell, at least one. -/
def hexNumber? (digits : List Char) : Option Nat :=
  if digits.isEmpty then none
  else digits.foldlM (fun value c => (hexValue? c).map (16 * value + ·)) 0

/-- A code point in hexadecimal digits after its letter. -/
def codePoint (flags : Flags) (count : Nat) (rest : List Char) : Option (Atom × List Char) :=
  match skip flags rest with
  | [] => none
  | '\x7b' :: rest => do
    let (inner, rest) ← upToBrace flags (rest.length + 1) rest
    let c ← scalar? (← hexNumber? inner)
    some (.literal c false, skip flags rest)
  | rest => do
    let (value, rest) ← hexDigits flags count 0 rest
    let c ← scalar? value
    some (.literal c (count = 2), rest)

/-- Folds a class if case is ignored, and then takes the opposite if asked.  Without characters
outside of ASCII there is no opposite. -/
def settle (flags : Flags) (negated : Bool) (chars : CharClass) : Option CharClass :=
  let chars := if flags.ignoreCase then chars.folded flags.unicode else chars
  if negated then if flags.unicode then some chars.complement else none else some chars

/-- A property after its letter. -/
def property (flags : Flags) (negated : Bool) (rest : List Char) : Option (Atom × List Char) :=
  if !flags.unicode then none
  else
    match skip flags rest with
    | [] => none
    | '\x7b' :: rest => do
      let (inner, rest) ← upToBrace flags (rest.length + 1) rest
      let (chars, opposite) ← CharClass.ofProperty? inner
      let chars ← settle flags (negated != opposite) chars
      some (.set chars, rest)
    | '\\' :: _ => none
    | c :: rest => do
      let chars ← settle flags negated (← CharClass.ofName? [c])
      some (.set chars, skip flags rest)

/-- Whether a character belongs to a word. -/
def isWord (flags : Flags) : Option Char → Bool
  | none => false
  | some c => if flags.unicode then CharClass.wordRanges.contains c else CharClass.asciiWord.accepts c

/-- A place by the words before and after it. -/
def wordPlace (flags : Flags) (holds : Bool → Bool → Bool) : Atom :=
  .place fun before after => holds (isWord flags before) (isWord flags after)

def boundary (flags : Flags) : Atom := wordPlace flags fun before after => before != after

def wordStart (flags : Flags) : Atom := wordPlace flags fun before after => !before && after

def wordEnd (flags : Flags) : Atom := wordPlace flags fun before after => before && !after

/-- The letters of the names of special word boundaries. -/
def isBoundaryLetter (c : Char) : Bool := c.isAlpha || c = '-'

/-- The letters in front of a text, with ignored blanks between them. -/
def boundaryLetters (flags : Flags) : Nat → List Char → List Char × List Char
  | 0, rest => ([], rest)
  | fuel + 1, rest =>
    match rest with
    | [] => ([], [])
    | c :: tail =>
      if isBoundaryLetter c then
        let (letters, rest) := boundaryLetters flags fuel (skip flags tail)
        (c :: letters, rest)
      else ([], rest)

/-- What follows `\b`: a special boundary in braces, or nothing of its kind. -/
def afterBoundary (flags : Flags) (rest : List Char) : Option (Atom × List Char) :=
  match rest with
  | '\x7b' :: inner =>
    match skip flags inner with
    | [] => none
    | c :: tail =>
      if isBoundaryLetter c then
        match boundaryLetters flags (tail.length + 2) (c :: tail) with
        | (letters, '\x7d' :: after) =>
          let name := String.ofList letters
          if name = "start" then some (wordStart flags, after)
          else if name = "end" then some (wordEnd flags, after)
          else if name = "start-half" then
            some (wordPlace flags fun before _ => !before, after)
          else if name = "end-half" then some (wordPlace flags fun _ later => !later, after)
          else none
        | _ => none
      else some (boundary flags, rest)
  | _ => some (boundary flags, rest)

def startOfText : Atom := .place fun before _ => before.isNone

def endOfText : Atom := .place fun _ after => after.isNone

/-- The characters that may stand after a backslash for themselves. -/
def standsForItself (c : Char) : Bool :=
  c.toNat < 128 && !c.isAlphanum && c != '<' && c != '>'

/-- The character that a letter after a backslash stands for. -/
def control? (c : Char) : Option Char :=
  if c = 'a' then some '\x07'
  else if c = 'f' then some '\x0c'
  else if c = 't' then some '\t'
  else if c = 'n' then some '\n'
  else if c = 'r' then some '\r'
  else if c = 'v' then some '\x0b'
  else none

/-- An escape after its backslash. -/
def escape (flags : Flags) : List Char → Option (Atom × List Char)
  | [] => none
  | c :: rest =>
    if c.isDigit then none
    else if c = 'x' then codePoint flags 2 rest
    else if c = 'u' then codePoint flags 4 rest
    else if c = 'U' then codePoint flags 8 rest
    else if c = 'p' then property flags false rest
    else if c = 'P' then property flags true rest
    else if standsForItself c then some (.literal c false, rest)
    else if c = 'A' then some (startOfText, rest)
    else if c = 'z' then some (endOfText, rest)
    else if c = 'b' then afterBoundary flags rest
    else if c = 'B' then some (wordPlace flags fun before after => before == after, rest)
    else if c = '<' then some (wordStart flags, rest)
    else if c = '>' then some (wordEnd flags, rest)
    else
      match control? c with
      | some value => some (.literal value false, rest)
      | none =>
        match CharClass.ofLetter? flags.unicode c.toLower with
        | none => none
        | some chars =>
          if c.isLower then some (.set chars, rest)
          else if flags.unicode then some (.set chars.complement, rest)
          else none

/-! ## Classes in brackets -/

/-- The character of a literal, where characters outside of ASCII may be left out. -/
def member? (flags : Flags) : Atom → Option Char
  | .literal c _ => if flags.unicode || c.toNat < 128 then some c else none
  | _ => none

/-- The class of an item in brackets. -/
def itemClass? (flags : Flags) : Atom → Option CharClass
  | .set chars => some chars
  | .literal c isByte => (member? flags (.literal c isByte)).map .single
  | .place _ => none

/-- One character or escape in brackets. -/
def bracketItem (flags : Flags) : List Char → Option (Atom × List Char)
  | [] => none
  | '\\' :: rest => escape flags rest
  | c :: rest => some (.literal c false, rest)

/-- An item or a range in brackets. -/
def bracketRange (flags : Flags) (rest : List Char) : Option (CharClass × List Char) := do
  let (first, rest) ← bracketItem flags rest
  let single := (itemClass? flags first).map fun chars => (chars, skip flags rest)
  match skip flags rest with
  | [] => none
  | '-' :: tail =>
    match skip flags tail with
    | [] => none
    | ']' :: _ => single
    | '-' :: _ => single
    | tail => do
      let (second, rest) ← bracketItem flags tail
      let low ← member? flags first
      let high ← member? flags second
      if low ≤ high then some (.range low high, rest) else none
  | _ => single

/-- A class with a name, such as `:alpha:]` after its bracket. -/
def namedClass (flags : Flags) : List Char → Option (Option CharClass × List Char)
  | ':' :: rest =>
    let (negated, rest) := match rest with
      | '^' :: rest => (true, rest)
      | rest => (false, rest)
    match rest.span (· != ':') with
    | (name, ':' :: ']' :: rest) =>
      (CharClass.ascii? (String.ofList name)).map fun chars => (settle flags negated chars, rest)
    | _ => none
  | _ => none

/-- The operations between classes. -/
inductive Operation where
  | intersection
  | difference
  | symmetricDifference

def Operation.apply : Operation → CharClass → CharClass → CharClass
  | .intersection => CharClass.intersection
  | .difference => CharClass.difference
  | .symmetricDifference => CharClass.symmetricDifference

/-- What has been read inside one pair of brackets. -/
structure Bracket where
  negated : Bool
  /-- What stands before the last operation, and the operation. -/
  pending : Option (CharClass × Operation) := none
  /-- The items after the last operation. -/
  items : CharClass := .nothing
  /-- How deep brackets are nested in it. -/
  depth : Nat := 0

namespace Bracket

def add (bracket : Bracket) (chars : CharClass) : Bracket :=
  { bracket with items := bracket.items.union chars }

/-- The class of all items and operations so far. -/
def value (flags : Flags) (bracket : Bracket) : CharClass :=
  let fold := fun (chars : CharClass) =>
    if flags.ignoreCase then chars.folded flags.unicode else chars
  match bracket.pending with
  | none => bracket.items
  | some (before, operation) => operation.apply (fold before) (fold bracket.items)

/-- Starts the right side of an operation. -/
def operate (flags : Flags) (bracket : Bracket) (operation : Operation) : Bracket :=
  { bracket with pending := some (bracket.value flags, operation), items := .nothing }

end Bracket

/-- Hyphens at the start of brackets stand for themselves. -/
def leadingHyphens (flags : Flags) : Nat → List Char → Bracket → List Char × Bracket
  | 0, rest, bracket => (rest, bracket)
  | fuel + 1, rest, bracket =>
    match rest with
    | '-' :: rest => leadingHyphens flags fuel (skip flags rest) (bracket.add (.single '-'))
    | rest => (rest, bracket)

/-- The start of brackets after the opening one. -/
def openBracket (flags : Flags) (rest : List Char) : List Char × Bracket :=
  let (negated, rest) := match skip flags rest with
    | '^' :: rest => (true, skip flags rest)
    | rest => (false, rest)
  match rest with
  | ']' :: rest => (skip flags rest, ({ negated } : Bracket).add (.single ']'))
  | rest => leadingHyphens flags (rest.length + 1) rest { negated }

/-- The rest of brackets up to the closing one: their class, their depth and what follows. -/
def bracketRest (flags : Flags) : Nat → List Char → Bracket → Option (CharClass × Nat × List Char)
  | 0, _, _ => none
  | fuel + 1, rest, bracket =>
    match skip flags rest with
    | [] => none
    | '[' :: rest =>
      match namedClass flags rest with
      | some (none, _) => none
      | some (some chars, rest) => bracketRest flags fuel rest (bracket.add chars)
      | none =>
        let (inside, inner) := openBracket flags rest
        match bracketRest flags fuel inside inner with
        | none => none
        | some (chars, depth, rest) =>
          bracketRest flags fuel rest
            { bracket.add chars with depth := max bracket.depth (depth + 1) }
    | ']' :: rest =>
      (settle flags bracket.negated (bracket.value flags)).map fun chars =>
        (chars, bracket.depth, rest)
    | '&' :: '&' :: rest => bracketRest flags fuel rest (bracket.operate flags .intersection)
    | '-' :: '-' :: rest => bracketRest flags fuel rest (bracket.operate flags .difference)
    | '~' :: '~' :: rest => bracketRest flags fuel rest (bracket.operate flags .symmetricDifference)
    | rest =>
      match bracketRange flags rest with
      | none => none
      | some (chars, rest) => bracketRest flags fuel rest (bracket.add chars)

/-- A class in brackets after the opening one. -/
def bracketClass (flags : Flags) (rest : List Char) : Option (CharClass × Nat × List Char) :=
  let (inside, bracket) := openBracket flags rest
  if inside.isEmpty then none else bracketRest flags (2 * rest.length + 2) inside bracket

/-! ## Repetitions -/

/-- A decimal number below 2 ^ 32 with blanks around it. -/
def decimal (flags : Flags) (rest : List Char) : Option (Nat × List Char) :=
  let rest := rest.dropWhile Text.isBlank
  let (digits, rest) := go (rest.length + 1) rest
  let value := Number.ofDigits digits
  if digits.isEmpty || Number.powerOfTwo 32 ≤ value then none else some (value, rest.dropWhile Text.isBlank)
where
  /-- Digits with ignored blanks between them. -/
  go : Nat → List Char → List Char × List Char
    | 0, rest => ([], rest)
    | fuel + 1, rest =>
      match rest with
      | [] => ([], [])
      | c :: tail =>
        if c.isDigit then
          let (digits, rest) := go fuel (skip flags tail)
          (c :: digits, rest)
        else ([], rest)

/-- The bounds of a repetition after the opening brace, with the closing one. -/
def bounds (flags : Flags) (rest : List Char) : Option (Nat × Option Nat × List Char) := do
  let (least, rest) ← decimal flags (skip flags rest)
  match rest with
  | ',' :: rest =>
    match skip flags rest with
    | '\x7d' :: rest => some (least, none, skip flags rest)
    | rest => do
      let (most, rest) ← decimal flags rest
      match rest with
      | '\x7d' :: rest => if least ≤ most then some (least, some most, skip flags rest) else none
      | _ => none
  | '\x7d' :: rest => some (least, some least, skip flags rest)
  | _ => none

/-- A mark after a repetition that says which matches are tried first. -/
def dropMark : List Char → List Char
  | '?' :: rest => rest
  | rest => rest

/-! ## Groups -/

/-- Flags before a closing bracket or a colon, each once. -/
def readFlags : List Char → List Char → Bool → Flags → Option (Flags × List Char × List Char)
  | seen, c :: rest, negated, flags =>
    if c = ':' || c = ')' then
      if seen.head? = some '-' then none else some (flags, seen, c :: rest)
    else if seen.contains c then none
    else if c = '-' then readFlags (c :: seen) rest true flags
    else
      let next := readFlags (c :: seen) rest negated
      if c = 'i' then next { flags with ignoreCase := !negated }
      else if c = 'm' then next { flags with multiLine := !negated }
      else if c = 's' then next { flags with dotAll := !negated }
      else if c = 'u' then next { flags with unicode := !negated }
      else if c = 'x' then next { flags with extended := !negated }
      else if c = 'R' then next { flags with crlf := !negated }
      else if c = 'U' then next flags
      else none
  | _, [], _, _ => none

/-- Whether a character may start the name of a group. -/
def startsName (c : Char) : Bool :=
  c = '_' || ((Text.property? "alphabetic").map fun isMember => isMember c).getD false

/-- Whether a character may stand in the name of a group. -/
def continuesName (c : Char) : Bool :=
  startsName c || c = '.' || c = '[' || c = ']' || (Text.categoriesOf ["nd", "nl", "no"]).contains c

/-- The name of a group with its closing mark; no other group may have it. -/
def groupName (names : List (List Char)) (rest : List Char) : Option (List Char × List Char) :=
  match rest.span (· != '>') with
  | (c :: name, _ :: rest) =>
    if startsName c && name.all continuesName && !names.contains (c :: name) then
      some (c :: name, rest)
    else none
  | _ => none

/-- What an opening bracket starts. -/
inductive Opening where
  /-- Flags for the rest of the group around it. -/
  | setFlags (flags : Flags) (rest : List Char)
  | group (flags : Flags) (names : List (List Char)) (rest : List Char)

/-- Whether a group looks ahead or behind. -/
def looksAround (rest : List Char) : Bool :=
  ["?=", "?!", "?<=", "?<!"].any fun mark => mark.toList.isPrefixOf rest

/-- What stands after an opening bracket. -/
def openGroup (flags : Flags) (names : List (List Char)) (rest : List Char) : Option Opening :=
  let rest := skip flags rest
  if looksAround rest then none
  else
    match rest with
    | '?' :: 'P' :: '<' :: rest =>
      (groupName names rest).map fun (name, rest) => .group flags (name :: names) rest
    | '?' :: '<' :: rest =>
      (groupName names rest).map fun (name, rest) => .group flags (name :: names) rest
    | '?' :: rest =>
      match readFlags [] rest false flags with
      | some (flags, seen, ')' :: rest) =>
        if seen.isEmpty then none else some (.setFlags flags rest)
      | some (flags, _, ':' :: rest) => some (.group flags names rest)
      | _ => none
    | rest => some (.group flags names rest)

/-! ## Patterns -/

/-- A part of a pattern, how deep it is nested, and whether it can be repeated. -/
structure Part where
  pattern : Pattern
  depth : Nat := 0
  repeatable : Bool := true

/-- The parts of a sequence, given in reverse. -/
def sequenceOf : List Part → Part
  | [] => { pattern := .empty }
  | [part] => part
  | parts =>
    { pattern := parts.foldl (fun later part => .sequence part.pattern later) .empty
      depth := (parts.map Part.depth).foldl max 0 + 1 }

/-- The alternatives of a pattern, given in reverse. -/
def alternativesOf : List Part → Part
  | [] => { pattern := .empty }
  | [part] => part
  | last :: parts =>
    { pattern := parts.foldl (fun later part => .either part.pattern later) last.pattern
      depth := ((last :: parts).map Part.depth).foldl max 0 + 1 }

/-- The room that a class takes: a round figure for each of its ranges, so that the class of all
characters of words takes a little more than 45000. -/
def classWeight (chars : CharClass) : Nat := 24 + 34 * chars.ranges

/-- The pattern of one character of a class. -/
def ofClass (chars : CharClass) : Pattern := .character chars.accepts (classWeight chars)

/-- The part for an escape or a plain character. -/
def ofAtom? (flags : Flags) : Atom → Option Part
  | .literal c isByte =>
    if !flags.unicode && isByte && 127 < c.toNat then none
    else if flags.ignoreCase then
      let single := CharClass.single c
      some { pattern := .character (single.folded flags.unicode).accepts (24 * c.utf8Size) }
    else some { pattern := .character (· == c) (24 * c.utf8Size) }
  | .set chars => some { pattern := ofClass chars }
  | .place holds => some { pattern := .place holds }

/-- The dot. -/
def dot? (flags : Flags) : Option Part :=
  if flags.unicode then
    let accepts (c : Char) : Bool := flags.dotAll || (c != '\n' && !(flags.crlf && c = '\r'))
    some { pattern := .character accepts 200 }
  else none

/-- The place that `^` stands for. -/
def lineStart (flags : Flags) : Part where
  pattern := .place fun before after =>
    match before with
    | none => true
    | some c =>
      flags.multiLine && (c = '\n' || (flags.crlf && c = '\r' && after != some '\n'))

/-- The place that `$` stands for. -/
def lineEnd (flags : Flags) : Part where
  pattern := .place fun before after =>
    match after with
    | none => true
    | some c =>
      flags.multiLine &&
        if flags.crlf then c = '\r' || (c = '\n' && before != some '\r') else c = '\n'

/-- What is left of the text, with the flags and the names of groups so far. -/
structure State where
  rest : List Char
  flags : Flags := {}
  names : List (List Char) := []

/-- Repeats the last part of a sequence. -/
def repeatLast (least : Nat) (most : Option Nat) : List Part → Option (List Part)
  | [] => none
  | part :: parts =>
    if part.repeatable then
      some ({ pattern := .repeated part.pattern least most, depth := part.depth + 1 } :: parts)
    else none

/-- Reads up to the end of the group, or of the text if `inGroup` is false.  `row` is the sequence
so far and `alternatives` are the ones before it, both in reverse. -/
def parts (inGroup : Bool) : Nat → State → List Part → List Part → Option (Part × State)
  | 0, _, _, _ => none
  | fuel + 1, state, row, alternatives =>
    let flags := state.flags
    let finish := alternativesOf (sequenceOf row :: alternatives)
    let next (rest : List Char) (row : List Part) : Option (Part × State) :=
      parts inGroup fuel { state with rest } row alternatives
    match skip flags state.rest with
    | [] => if inGroup then none else some (finish, { state with rest := [] })
    | ')' :: rest => if inGroup then some (finish, { state with rest }) else none
    | '|' :: rest =>
      parts inGroup fuel { state with rest } [] (sequenceOf row :: alternatives)
    | '(' :: rest =>
      match openGroup flags state.names rest with
      | none => none
      | some (.setFlags flags rest) =>
        parts inGroup fuel { state with rest, flags }
          ({ pattern := .empty, repeatable := false } :: row) alternatives
      | some (.group inner names rest) =>
        match parts true fuel { rest, flags := inner, names } [] [] with
        | none => none
        | some (part, after) =>
          parts inGroup fuel { after with flags }
            ({ pattern := part.pattern, depth := part.depth + 1 } :: row) alternatives
    | '[' :: rest =>
      match bracketClass flags rest with
      | none => none
      | some (chars, depth, rest) =>
        next rest ({ pattern := ofClass chars, depth := depth + 1 } :: row)
    | '?' :: rest => (repeatLast 0 (some 1) row).bind (next (dropMark rest))
    | '*' :: rest => (repeatLast 0 none row).bind (next (dropMark rest))
    | '+' :: rest => (repeatLast 1 none row).bind (next (dropMark rest))
    | '\x7b' :: rest =>
      match bounds flags rest with
      | none => none
      | some (least, most, rest) => (repeatLast least most row).bind (next (dropMark rest))
    | '.' :: rest => (dot? flags).bind fun part => next rest (part :: row)
    | '^' :: rest => next rest (lineStart flags :: row)
    | '$' :: rest => next rest (lineEnd flags :: row)
    | '\\' :: rest =>
      match escape flags rest with
      | none => none
      | some (atom, rest) => (ofAtom? flags atom).bind fun part => next rest (part :: row)
    | c :: rest => (ofAtom? flags (.literal c false)).bind fun part => next rest (part :: row)

end Reader

/-- How deep a pattern may be nested. -/
def depthLimit : Nat := 250

/-- How much room a pattern may take.  The room is an estimate; what it is for is that repetitions
of repetitions do not grow without bound. -/
def weightLimit : Nat := 10485760

/-- Reads a pattern; none if the text is no pattern or the pattern is too large. -/
def parse? (text : String) : Option Pattern :=
  let chars := text.toList
  match Reader.parts false (2 * chars.length + 2) { rest := chars } [] [] with
  | none => none
  | some (part, _) =>
    if part.depth ≤ depthLimit && part.pattern.weight ≤ weightLimit then some part.pattern
    else none

/-- Which texts the pattern of a text occurs in. -/
def matcher? (text : String) : Option (String → Bool) := (parse? text).map isMatch

end WorkflowGraph.Pattern
