import WorkflowGraph.Number.Binary64
import WorkflowGraph.Toml.Value

/-!
# Reading TOML

A document is read line by line: entries go to the table of the last header.  That table is kept
apart while it is read and is put into its place when the next header comes or the document ends.
-/

namespace WorkflowGraph.Toml

namespace Reader

/-! ## Blanks and line ends -/

def isSpace (c : Char) : Bool := c = ' ' || c = '\t'

/-- The text without the blanks in front. -/
def skipSpace (input : List Char) : List Char := input.dropWhile isSpace

/-- Whether a character may stand in a comment, or in a string where it is not special. -/
def isPlain (c : Char) : Bool := c = '\t' || (' ' ≤ c && c != '\x7f')

/-- A line end. -/
def newline? : List Char → Option (List Char)
  | '\n' :: rest => some rest
  | '\r' :: '\n' :: rest => some rest
  | _ => none

/-- A comment up to the end of its line, if there is one. -/
def skipComment : List Char → List Char
  | '#' :: rest => rest.dropWhile isPlain
  | rest => rest

/-- A line end or the end of the text. -/
def lineEnd? : List Char → Option (List Char)
  | [] => some []
  | rest => newline? rest

/-- Blanks, a comment and the line end after an entry or a header. -/
def endOfLine? (input : List Char) : Option (List Char) :=
  lineEnd? (skipComment (skipSpace input))

/-- Blanks, line ends and comments, as they may stand between the items of an array; `fuel` bounds
their number. -/
def skipLines : Nat → List Char → Option (List Char)
  | 0, _ => none
  | fuel + 1, input =>
    match skipSpace input with
    | '#' :: rest =>
      match newline? (rest.dropWhile isPlain) with
      | none => none
      | some rest => skipLines fuel rest
    | rest =>
      match newline? rest with
      | none => some rest
      | some rest => skipLines fuel rest

/-! ## Strings -/

def hexValue? (c : Char) : Option Nat :=
  if c.isDigit then some (c.toNat - '0'.toNat)
  else if 'a' ≤ c && c ≤ 'f' then some (c.toNat - 'a'.toNat + 10)
  else if 'A' ≤ c && c ≤ 'F' then some (c.toNat - 'A'.toNat + 10)
  else none

/-- A character with a given number of hexadecimal digits. -/
def codePoint? (count : Nat) (input : List Char) : Option (Char × List Char) := do
  let digits := input.take count
  if digits.length ≠ count then none
  let value ← digits.foldlM (fun value c => (hexValue? c).map (16 * value + ·)) 0
  if value.isValidChar then some (Char.ofNat value, input.drop count) else none

/-- An escape after its backslash. -/
def escape? : List Char → Option (Char × List Char)
  | 'b' :: rest => some ('\x08', rest)
  | 't' :: rest => some ('\t', rest)
  | 'n' :: rest => some ('\n', rest)
  | 'f' :: rest => some ('\x0c', rest)
  | 'r' :: rest => some ('\r', rest)
  | '"' :: rest => some ('"', rest)
  | '\\' :: rest => some ('\\', rest)
  | 'u' :: rest => codePoint? 4 rest
  | 'U' :: rest => codePoint? 8 rest
  | _ => none

/-- A string between double quotes, after the first one. -/
def basic? : Nat → List Char → Option (List Char × List Char)
  | 0, _ => none
  | fuel + 1, input =>
    match input with
    | [] => none
    | '"' :: rest => some ([], rest)
    | '\\' :: rest => do
      let (c, rest) ← escape? rest
      let (chars, rest) ← basic? fuel rest
      some (c :: chars, rest)
    | c :: rest =>
      if isPlain c then (basic? fuel rest).map fun (chars, rest) => (c :: chars, rest) else none

/-- A string between single quotes, after the first one. -/
def literal? (input : List Char) : Option (List Char × List Char) :=
  match input.span fun c => isPlain c && c != '\'' with
  | (chars, '\'' :: rest) => some (chars, rest)
  | _ => none

/-- The quotes in front of a text in a string of several lines: fewer than three belong to the
string; three end it, and up to two more before them belong to it.  The flag says whether the
string ends. -/
def quotes (mark : Char) (input : List Char) : List Char × Bool × List Char :=
  let count := (input.takeWhile (· = mark)).length
  if count < 3 then (List.replicate count mark, false, input.drop count)
  else
    let kept := min (count - 3) 2
    (List.replicate kept mark, true, input.drop (kept + 3))

/-- What a backslash at the end of a line skips: the line end and all blanks and line ends after
it. -/
def skipBreak? (input : List Char) : Option (List Char) :=
  (newline? (skipSpace input)).map fun rest => go (rest.length + 1) rest
where
  go : Nat → List Char → List Char
    | 0, rest => rest
    | fuel + 1, rest =>
      let rest := skipSpace rest
      match newline? rest with
      | none => rest
      | some rest => go fuel rest

/-- A string of several lines up to its closing quotes; `escapes` says whether a backslash is
special. -/
def lines? (mark : Char) (escapes : Bool) : Nat → List Char → Option (List Char × List Char)
  | 0, _ => none
  | fuel + 1, input =>
    match input with
    | [] => none
    | c :: rest =>
      if c = mark then
        match quotes mark input with
        | (chars, true, rest) => some (chars, rest)
        | (chars, false, rest) =>
          (lines? mark escapes fuel rest).map fun (more, rest) => (chars ++ more, rest)
      else if escapes && c = '\\' then
        match skipBreak? rest with
        | some rest => lines? mark escapes fuel rest
        | none => do
          let (c, rest) ← escape? rest
          let (chars, rest) ← lines? mark escapes fuel rest
          some (c :: chars, rest)
      else
        match newline? input with
        | some rest => (lines? mark escapes fuel rest).map fun (chars, rest) => ('\n' :: chars, rest)
        | none =>
          if isPlain c then
            (lines? mark escapes fuel rest).map fun (chars, rest) => (c :: chars, rest)
          else none

/-- The text without a line end in front. -/
def dropNewline (input : List Char) : List Char := (newline? input).getD input

/-- A string in any of the four notations. -/
def string? : List Char → Option (String × List Char)
  | '"' :: '"' :: '"' :: rest =>
    (lines? '"' true (rest.length + 1) (dropNewline rest)).map fun (chars, rest) =>
      (String.ofList chars, rest)
  | '\'' :: '\'' :: '\'' :: rest =>
    (lines? '\'' false (rest.length + 1) (dropNewline rest)).map fun (chars, rest) =>
      (String.ofList chars, rest)
  | '"' :: rest =>
    (basic? (rest.length + 1) rest).map fun (chars, rest) => (String.ofList chars, rest)
  | '\'' :: rest => (literal? rest).map fun (chars, rest) => (String.ofList chars, rest)
  | _ => none

/-! ## Keys -/

def isKeyChar (c : Char) : Bool := c.isAlphanum || c = '-' || c = '_'

/-- A key without dots. -/
def simpleKey? : List Char → Option (String × List Char)
  | '"' :: rest =>
    (basic? (rest.length + 1) rest).map fun (chars, rest) => (String.ofList chars, rest)
  | '\'' :: rest => (literal? rest).map fun (chars, rest) => (String.ofList chars, rest)
  | input =>
    match input.span isKeyChar with
    | ([], _) => none
    | (chars, rest) => some (String.ofList chars, rest)

/-- How deep keys and values may be nested. -/
def nestingLimit : Nat := 80

/-- A key with or without dots: its parts, in order.  `fuel` bounds their number. -/
def keyParts? : Nat → List Char → Option (List String × List Char)
  | 0, _ => none
  | fuel + 1, input => do
    let (part, rest) ← simpleKey? (skipSpace input)
    match skipSpace rest with
    | '.' :: rest => do
      let (parts, rest) ← keyParts? fuel rest
      some (part :: parts, rest)
    | rest => some ([part], rest)

/-- A key as the path to its table and its last part. -/
def key? (input : List Char) : Option ((List String × String) × List Char) := do
  let (parts, rest) ← keyParts? (input.length + 1) input
  if nestingLimit ≤ parts.length then none
  let last ← parts.getLast?
  some ((parts.dropLast, last), rest)

/-! ## Numbers and dates -/

/-- Digits with single underscores between them, at least one digit. -/
def digits? (isDigit : Char → Bool) : List Char → Option (List Char × List Char)
  | [] => none
  | c :: rest =>
    if isDigit c then
      match rest with
      | '_' :: d :: more =>
        if isDigit d then
          (digits? isDigit (d :: more)).map fun (digits, rest) => (c :: digits, rest)
        else some ([c], rest)
      | d :: more =>
        if isDigit d then
          (digits? isDigit (d :: more)).map fun (digits, rest) => (c :: digits, rest)
        else some ([c], rest)
      | [] => some ([c], [])
    else none

/-- A sign, if there is one. -/
def sign : List Char → Bool × List Char
  | '-' :: rest => (true, rest)
  | '+' :: rest => (false, rest)
  | rest => (false, rest)

/-- The digits of a whole number: a zero stands alone. -/
def whole? : List Char → Option (List Char × List Char)
  | '0' :: rest => some (['0'], rest)
  | rest => digits? Char.isDigit rest

/-- The number that digits of some base spell. -/
def inBase (base : Nat) (digits : List Char) : Nat :=
  digits.foldl (fun value c => base * value + (hexValue? c).getD 0) 0

/-- An integer of 64 bits. -/
def fitting? (n : Int) (rest : List Char) : Option (Toml × List Char) :=
  if Number.fitsSigned n then some (.integer n, rest) else none

/-- An integer in decimal, hexadecimal, octal or binary digits. -/
def integer? : List Char → Option (Toml × List Char)
  | '0' :: 'x' :: rest => do
    let (digits, rest) ← digits? (fun c => (hexValue? c).isSome) rest
    fitting? (inBase 16 digits) rest
  | '0' :: 'o' :: rest => do
    let (digits, rest) ← digits? (fun c => '0' ≤ c && c ≤ '7') rest
    fitting? (inBase 8 digits) rest
  | '0' :: 'b' :: rest => do
    let (digits, rest) ← digits? (fun c => c = '0' || c = '1') rest
    fitting? (inBase 2 digits) rest
  | input => do
    let (negative, rest) := sign input
    let (digits, rest) ← whole? rest
    let n : Int := inBase 10 digits
    fitting? (if negative then -n else n) rest

/-- The names of numbers that are not finite. -/
def special? : List Char → Option (List Char)
  | 'i' :: 'n' :: 'f' :: rest => some rest
  | 'n' :: 'a' :: 'n' :: rest => some rest
  | _ => none

/-- An exponent: its value and what follows. -/
def exponent? : List Char → Option (Int × List Char)
  | c :: rest =>
    if c = 'e' || c = 'E' then do
      let (negative, rest) := sign rest
      let (digits, rest) ← digits? Char.isDigit rest
      let n : Int := inBase 10 digits
      some (if negative then -n else n, rest)
    else none
  | [] => none

/-- A point and the digits after it. -/
def fraction? : List Char → Option (List Char × List Char)
  | '.' :: rest => digits? Char.isDigit rest
  | _ => none

/-- A number with a fraction or an exponent.  A positive one must not be too large. -/
def decimal? (input : List Char) : Option (Toml × List Char) := do
  let (negative, rest) := sign input
  match special? rest with
  | some rest => some (.decimal, rest)
  | none =>
    let (whole, rest) ← whole? rest
    let (fraction, power, rest) ←
      match fraction? rest with
      | some (fraction, rest) =>
        match exponent? rest with
        | some (power, rest) => some (fraction, power, rest)
        | none => some (fraction, 0, rest)
      | none => (exponent? rest).map fun (power, rest) => ([], power, rest)
    match Number.Binary64.ofDecimal negative (inBase 10 (whole ++ fraction))
        (power - fraction.length) with
    | .infinite false => none
    | _ => some (.decimal, rest)

/-- Two digits within bounds. -/
def twoDigits? (low high : Nat) : List Char → Option (Nat × List Char)
  | a :: b :: rest =>
    if a.isDigit && b.isDigit then
      let n := inBase 10 [a, b]
      if low ≤ n && n ≤ high then some (n, rest) else none
    else none
  | _ => none

/-- What reading a date or a time can come to. -/
inductive Attempt where
  /-- There is none here. -/
  | absent
  /-- There is one here, but it is wrong. -/
  | wrong
  | found (rest : List Char)

def isLeap (year : Nat) : Bool := year % 4 = 0 && (year % 100 ≠ 0 || year % 400 = 0)

/-- How many days a month has. -/
def daysOf (year month : Nat) : Nat :=
  if month = 2 then if isLeap year then 29 else 28
  else if month = 4 || month = 6 || month = 9 || month = 11 then 30
  else 31

/-- A date: a year of four digits, a month and a day. -/
def date (input : List Char) : Attempt :=
  match input with
  | a :: b :: c :: d :: '-' :: rest =>
    if [a, b, c, d].all Char.isDigit then
      match twoDigits? 1 12 rest with
      | some (month, '-' :: rest) =>
        match twoDigits? 1 31 rest with
        | some (day, rest) =>
          if day ≤ daysOf (inBase 10 [a, b, c, d]) month then .found rest else .wrong
        | none => .wrong
      | _ => .wrong
    else .absent
  | _ => .absent

/-- A time of the day: hours, minutes and seconds with a fraction or none. -/
def time (input : List Char) : Attempt :=
  match twoDigits? 0 23 input with
  | some (_, ':' :: rest) =>
    match twoDigits? 0 59 rest with
    | some (_, ':' :: rest) =>
      match twoDigits? 0 60 rest with
      | some (_, '.' :: rest) =>
        match rest.span Char.isDigit with
        | ([], _) => .found ('.' :: rest)
        | (_, rest) => .found rest
      | some (_, rest) => .found rest
      | none => .wrong
    | _ => .wrong
  | _ => .absent

/-- The offset of a time from universal time. -/
def offset : List Char → Attempt
  | [] => .absent
  | c :: rest =>
    if c = 'Z' || c = 'z' then .found rest
    else if c = '+' || c = '-' then
      match twoDigits? 0 23 rest with
      | some (_, ':' :: rest) =>
        match twoDigits? 0 59 rest with
        | some (_, rest) => .found rest
        | none => .wrong
      | _ => .wrong
    else .absent

/-- A date, a time, or both with an offset or none. -/
def moment (input : List Char) : Attempt :=
  match date input with
  | .wrong => .wrong
  | .absent => time input
  | .found rest =>
    match rest with
    | c :: later =>
      if c = 'T' || c = 't' || c = ' ' then
        match time later with
        | .wrong => .wrong
        | .absent => .found rest
        | .found rest =>
          match offset rest with
          | .wrong => .wrong
          | .absent => .found rest
          | .found rest => .found rest
      else .found rest
    | [] => .found []

/-- A number or a date. -/
def numeric? (input : List Char) : Option (Toml × List Char) :=
  match moment input with
  | .wrong => none
  | .found rest => some (.moment, rest)
  | .absent =>
    match decimal? input with
    | some found => some found
    | none => integer? input

/-- A value that holds no others. -/
def scalar? (input : List Char) : Option (Toml × List Char) :=
  match input with
  | [] => none
  | c :: _ =>
    if c = '"' || c = '\'' then (string? input).map fun (value, rest) => (.text value, rest)
    else if c.isDigit || c = '+' || c = '-' then numeric? input
    else
      match input with
      | 't' :: 'r' :: 'u' :: 'e' :: rest => some (.bool true, rest)
      | 'f' :: 'a' :: 'l' :: 's' :: 'e' :: rest => some (.bool false, rest)
      | input => (special? input).map fun rest => (.decimal, rest)

/-! ## Values -/

mutual

/-- A value; `depth` is how deep it may still be nested, and `fuel` bounds the steps. -/
def value? : Nat → Nat → List Char → Option (Toml × List Char)
  | 0, _, _ => none
  | fuel + 1, depth, input =>
    match input with
    | '[' :: rest =>
      match depth with
      | 0 => none
      | depth + 1 => do
        let (items, rest) ← items? fuel depth rest
        some (.array items, rest)
    | '\x7b' :: rest =>
      match depth with
      | 0 => none
      | depth + 1 =>
        match skipSpace rest with
        | '\x7d' :: rest => some (.table .inline [], rest)
        | rest => do
          let (entries, rest) ← pairs? fuel depth rest []
          some (.table .inline entries, rest)
    | input => scalar? input

/-- The items of an array and its closing bracket. -/
def items? : Nat → Nat → List Char → Option (List Toml × List Char)
  | 0, _, _ => none
  | fuel + 1, depth, input =>
    match skipLines (input.length + 1) input with
    | none => none
    | some (']' :: rest) => some ([], rest)
    | some input => do
      let (item, rest) ← value? fuel depth input
      match skipLines (rest.length + 1) rest with
      | some (',' :: rest) => do
        let (items, rest) ← items? fuel depth rest
        some (item :: items, rest)
      | some (']' :: rest) => some ([item], rest)
      | _ => none

/-- The entries of a table between braces and its closing brace, after the ones read before. -/
def pairs? : Nat → Nat → List Char → Entries → Option (Entries × List Char)
  | 0, _, _, _ => none
  | fuel + 1, depth, input, entries => do
    let ((path, key), rest) ← key? input
    match rest with
    | '=' :: rest => do
      let (value, rest) ← value? fuel depth (skipSpace rest)
      let (_, entries) ← setKey .inlineDotted path key value .inline entries
      match skipSpace rest with
      | ',' :: rest => pairs? fuel depth rest entries
      | '\x7d' :: rest => some (entries, rest)
      | _ => none
    | _ => none

end

/-! ## Documents -/

/-- The document so far, and the table that is being read. -/
structure State where
  root : Entries := []
  /-- The path of the last header; empty before the first one. -/
  path : List String := []
  /-- Whether the last header was in double brackets. -/
  inList : Bool := false
  entries : Entries := []

namespace State

/-- Puts the table that is being read into its place. -/
def close (state : State) : Option Entries :=
  match state.path.getLast? with
  | none => some state.entries
  | some key =>
    let place : TableForm → Entries → Option (TableForm × Entries) := fun form entries =>
      if state.inList then
        match entries.lookup key with
        | some (.tables items) =>
          some (form, setEntry key (.tables (items ++ [state.entries])) entries)
        | none => some (form, entries ++ [(key, .tables [state.entries])])
        | some _ => none
      else some (form, setEntry key (.table .header state.entries) entries)
    (changeAt .implied place state.path.dropLast .header state.root).map Prod.snd

/-- What is in the place of a header's table so far: nothing, or what was on the way to others.
A table that was made in any other way cannot have a header. -/
def continued? (key : String) (entries : Entries) : Option Entries :=
  match entries.lookup key with
  | none => some []
  | some (.table .implied below) => some below
  | some _ => none

/-- The entries at the end of a path that exists. -/
def endOf : List String → Entries → Entries
  | [], entries => entries
  | key :: path, entries =>
    match entries.lookup key with
    | some (.table _ below) => endOf path below
    | some (.tables items) => endOf path (items.getLast?.getD [])
    | _ => []

/-- Starts the table of a header and takes what is there so far out of the document. -/
def openTable (state : State) (path : List String) (key : String) : Option State := do
  let root ← state.close
  let keep : TableForm → Entries → Option (TableForm × Entries) := fun form entries =>
    some (form, entries)
  let (_, root) ← changeAt .implied keep path .header root
  let entries ← continued? key (endOf path root)
  let (_, root) ← changeAt .implied (fun form entries => some (form, dropEntry key entries))
    path .header root
  some { root, path := path ++ [key], inList := false, entries }

/-- Starts a further table of a header in double brackets. -/
def openListed (state : State) (path : List String) (key : String) : Option State := do
  let root ← state.close
  let (_, root) ← changeAt .implied (fun form entries =>
      match entries.lookup key with
      | none => some (form, entries)
      | some (.tables _) => some (form, entries)
      | some _ => none) path .header root
  some { root, path := path ++ [key], inList := true, entries := [] }

/-- Adds an entry to the table that is being read. -/
def add (state : State) (path : List String) (key : String) (value : Toml) : Option State :=
  (setKey .dotted path key value .header state.entries).map fun (_, entries) =>
    { state with entries }

end State

/-- A header and the rest of its line, after the first bracket. -/
def header? (state : State) : List Char → Option (State × List Char)
  | '[' :: rest => do
    let ((path, key), rest) ← key? rest
    match rest with
    | ']' :: ']' :: rest => do
      let rest ← endOfLine? rest
      some (← state.openListed path key, rest)
    | _ => none
  | input => do
    let ((path, key), rest) ← key? input
    match rest with
    | ']' :: rest => do
      let rest ← endOfLine? rest
      some (← state.openTable path key, rest)
    | _ => none

/-- An entry and the rest of its line. -/
def entry? (state : State) (input : List Char) : Option (State × List Char) := do
  let ((path, key), rest) ← key? input
  match rest with
  | '=' :: rest => do
    let rest := skipSpace rest
    let (value, rest) ← value? (2 * rest.length + 2) (nestingLimit - 1) rest
    let rest ← endOfLine? rest
    some (← state.add path key value, rest)
  | _ => none

/-- The lines of a document; `fuel` bounds their number. -/
def document? : Nat → State → List Char → Option Entries
  | 0, _, _ => none
  | fuel + 1, state, input =>
    match skipSpace input with
    | [] => state.close
    | '#' :: rest =>
      match lineEnd? (rest.dropWhile isPlain) with
      | none => none
      | some rest => document? fuel state rest
    | '[' :: rest =>
      match header? state rest with
      | none => none
      | some (state, rest) => document? fuel state rest
    | input =>
      match newline? input with
      | some rest => document? fuel state rest
      | none =>
        match entry? state input with
        | none => none
        | some (state, rest) => document? fuel state rest

end Reader

/-- The entries of a document.  A mark of the byte order may stand in front of it. -/
def parse? (text : String) : Option Entries :=
  let chars := match text.toList with
    | '\uFEFF' :: rest => rest
    | chars => chars
  Reader.document? (chars.length + 1) {} chars

end WorkflowGraph.Toml
