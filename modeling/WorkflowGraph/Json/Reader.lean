import WorkflowGraph.Json.Value

/-!
# Reading JSON

A document is one value with blanks around it.  Reading goes from left to right over the
characters; every reader gives what it read and the characters after it.
-/

namespace WorkflowGraph.Json.Reader

/-- The blanks of JSON. -/
def isSpace (c : Char) : Bool := c = ' ' || c = '\n' || c = '\t' || c = '\r'

/-- The text without the blanks in front. -/
def skipSpace (text : List Char) : List Char := text.dropWhile isSpace

/-! ## Strings -/

/-- The value of a hexadecimal digit. -/
def hexValue? (c : Char) : Option Nat :=
  if c.isDigit then some (c.toNat - '0'.toNat)
  else if 'a' ≤ c && c ≤ 'f' then some (c.toNat - 'a'.toNat + 10)
  else if 'A' ≤ c && c ≤ 'F' then some (c.toNat - 'A'.toNat + 10)
  else none

/-- The code unit that four hexadecimal digits spell. -/
def unit? : List Char → Option (Nat × List Char)
  | a :: b :: c :: d :: rest =>
    match hexValue? a, hexValue? b, hexValue? c, hexValue? d with
    | some a, some b, some c, some d => some (((a * 16 + b) * 16 + c) * 16 + d, rest)
    | _, _, _, _ => none
  | _ => none

/-- The character that a letter after a backslash stands for. -/
def escapeValue? (c : Char) : Option Char :=
  if c = '"' || c = '\\' || c = '/' then some c
  else if c = 'b' then some '\x08'
  else if c = 'f' then some '\x0c'
  else if c = 'n' then some '\n'
  else if c = 'r' then some '\r'
  else if c = 't' then some '\t'
  else none

/-- The code units of a string up to its closing quote; `fuel` bounds the characters read. -/
def units? : Nat → List Char → Option (List Nat × List Char)
  | 0, _ => none
  | fuel + 1, source =>
    match source with
    | [] => none
    | '"' :: rest => some ([], rest)
    | '\\' :: 'u' :: rest =>
      match unit? rest with
      | none => none
      | some (unit, rest) => (units? fuel rest).map fun (units, rest) => (unit :: units, rest)
    | '\\' :: c :: rest =>
      match escapeValue? c with
      | none => none
      | some value =>
        (units? fuel rest).map fun (units, rest) => (value.toNat :: units, rest)
    | c :: rest =>
      if c = '\\' || c.toNat < 0x20 then none
      else (units? fuel rest).map fun (units, rest) => (c.toNat :: units, rest)

/-- The characters that code units spell: a high and a low surrogate together are one
character, and neither may stand alone. -/
def ofUnits? : List Nat → Option (List Char)
  | [] => some []
  | [unit] => if 0xd800 ≤ unit && unit ≤ 0xdfff then none else some [Char.ofNat unit]
  | unit :: next :: rest =>
    if 0xdc00 ≤ unit && unit ≤ 0xdfff then none
    else if 0xd800 ≤ unit && unit ≤ 0xdbff then
      if 0xdc00 ≤ next && next ≤ 0xdfff then
        (ofUnits? rest).map
          (Char.ofNat (0x10000 + (unit - 0xd800) * 0x400 + (next - 0xdc00)) :: ·)
      else none
    else (ofUnits? (next :: rest)).map (Char.ofNat unit :: ·)

/-- A string after its opening quote. -/
def string? (text : List Char) : Option (Option String × List Char) :=
  (units? (text.length + 1) text).map fun (units, rest) =>
    ((ofUnits? units).map String.ofList, rest)

/-! ## Numbers -/

/-- Digits, at least one. -/
def digits? (text : List Char) : Option (List Char × List Char) :=
  match text.span Char.isDigit with
  | ([], _) => none
  | (digits, rest) => some (digits, rest)

/-- The digits before the point: no zero in front of others. -/
def whole? (text : List Char) : Option (List Char × List Char) :=
  match digits? text with
  | some ('0' :: _ :: _, _) => none
  | result => result

/-- A point and the digits after it; none if there is no point. -/
def fraction? : List Char → Option (Option (List Char) × List Char)
  | '.' :: rest => (digits? rest).map fun (digits, rest) => (some digits, rest)
  | rest => some (none, rest)

/-- The exponent after its letter, with its sign. -/
def exponentPart? : List Char → Option (Int × List Char)
  | '-' :: rest => (digits? rest).map fun (digits, rest) => (-(Number.ofDigits digits : Int), rest)
  | '+' :: rest => (digits? rest).map fun (digits, rest) => ((Number.ofDigits digits : Int), rest)
  | rest => (digits? rest).map fun (digits, rest) => ((Number.ofDigits digits : Int), rest)

/-- An exponent; none if there is none. -/
def exponent? : List Char → Option (Option Int × List Char)
  | 'e' :: rest => (exponentPart? rest).map fun (power, rest) => (some power, rest)
  | 'E' :: rest => (exponentPart? rest).map fun (power, rest) => (some power, rest)
  | rest => some (none, rest)

/-- The integer of 64 bits with the given sign and digits, or the floating-point number. -/
def ofInteger (negative : Bool) (n : Nat) : Json :=
  let value : Int := if negative then -(n : Int) else n
  if negative && n = 0 then decimal (.finite true 0 Number.Binary64.leastExponent)
  else if Number.fitsSigned value || Number.fitsUnsigned value then integer value
  else decimal (.ofInt value)

/-- A number after its sign. -/
def unsigned? (negative : Bool) (text : List Char) : Option (Json × List Char) := do
  let (whole, rest) ← whole? text
  let (fraction, rest) ← fraction? rest
  let (power, rest) ← exponent? rest
  match fraction, power with
  | none, none => some (ofInteger negative (Number.ofDigits whole), rest)
  | fraction, power =>
    let decimals := fraction.getD []
    let number := Number.ofDigits (whole ++ decimals)
    some (decimal (.ofDecimal negative number (power.getD 0 - decimals.length)), rest)

/-- A number. -/
def number? : List Char → Option (Json × List Char)
  | '-' :: rest => unsigned? true rest
  | rest => unsigned? false rest

/-! ## Values -/

mutual

/-- A value; `fuel` bounds the steps. -/
def value? : Nat → List Char → Option (Json × List Char)
  | 0, _ => none
  | fuel + 1, source =>
    match skipSpace source with
    | 'n' :: 'u' :: 'l' :: 'l' :: rest => some (null, rest)
    | 't' :: 'r' :: 'u' :: 'e' :: rest => some (bool true, rest)
    | 'f' :: 'a' :: 'l' :: 's' :: 'e' :: rest => some (bool false, rest)
    | '"' :: rest => (string? rest).map fun (value, rest) => (text value, rest)
    | '[' :: rest =>
      match skipSpace rest with
      | ']' :: rest => some (array [], rest)
      | rest => (items? fuel rest).map fun (items, rest) => (array items, rest)
    | '\x7b' :: rest =>
      match skipSpace rest with
      | '\x7d' :: rest => some (object [], rest)
      | rest => (entries? fuel rest).map fun (entries, rest) => (object entries, rest)
    | rest => number? rest

/-- The items of an array and its closing bracket. -/
def items? : Nat → List Char → Option (List Json × List Char)
  | 0, _ => none
  | fuel + 1, source =>
    match value? fuel source with
    | none => none
    | some (item, rest) =>
      match skipSpace rest with
      | ',' :: rest => (items? fuel rest).map fun (items, rest) => (item :: items, rest)
      | ']' :: rest => some ([item], rest)
      | _ => none

/-- The entries of an object and its closing brace. -/
def entries? : Nat → List Char → Option (List (Option String × Json) × List Char)
  | 0, _ => none
  | fuel + 1, source =>
    match skipSpace source with
    | '"' :: rest =>
      match string? rest with
      | none => none
      | some (key, rest) =>
        match skipSpace rest with
        | ':' :: rest =>
          match value? fuel rest with
          | none => none
          | some (value, rest) =>
            match skipSpace rest with
            | ',' :: rest =>
              (entries? fuel rest).map fun (entries, rest) => ((key, value) :: entries, rest)
            | '\x7d' :: rest => some ([(key, value)], rest)
            | _ => none
        | _ => none
    | _ => none

end

end Reader

/-- The value of a document. -/
def parse? (text : String) : Option Json :=
  let chars := text.toList
  match Reader.value? (2 * chars.length + 2) chars with
  | none => none
  | some (value, rest) => if (Reader.skipSpace rest).isEmpty then some value else none

end WorkflowGraph.Json
