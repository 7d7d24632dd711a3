/-!
# Decimal digits

Writing a natural number in decimal digits and reading it back.  Only the ten ASCII digits
count.
-/

namespace WorkflowGraph.Number

/-- A power of two. -/
def powerOfTwo (n : Nat) : Nat := Nat.pow 2 n

/-- A power of ten. -/
def powerOfTen (n : Nat) : Nat := Nat.pow 10 n

/-- The digits of a number, in front of `rest`; `count` bounds how many are written. -/
def digitsOnto : Nat → Nat → List Char → List Char
  | 0, _, rest => rest
  | count + 1, n, rest =>
    let rest := Char.ofNat ('0'.toNat + n % 10) :: rest
    if n < 10 then rest else digitsOnto count (n / 10) rest

/-- The decimal digits of a number, without leading zeros. -/
def digits (n : Nat) : List Char := digitsOnto (n + 1) n []

/-- The number that decimal digits spell. -/
def ofDigits (text : List Char) : Nat :=
  text.foldl (fun n c => 10 * n + (c.toNat - '0'.toNat)) 0

/-- The decimal text of a natural number. -/
def natText (n : Nat) : String := String.ofList (digits n)

/-- The decimal text of an integer. -/
def intText (n : Int) : String :=
  match n with
  | .ofNat n => natText n
  | .negSucc n => "-" ++ natText (n + 1)

/-- The number that a text of decimal digits spells; the text must not be empty. -/
def nat? (text : List Char) : Option Nat :=
  if !text.isEmpty && text.all Char.isDigit then some (ofDigits text) else none

/-- The integer that an optional sign and decimal digits spell. -/
def signed? : List Char → Option Int
  | '-' :: rest => (nat? rest).map fun n => -(n : Int)
  | '+' :: rest => (nat? rest).map fun n => (n : Int)
  | rest => (nat? rest).map fun n => (n : Int)

/-- The integers of 64 bits with a sign. -/
def fitsSigned (n : Int) : Bool := -9223372036854775808 ≤ n && n < 9223372036854775808

/-- The integers of 64 bits without a sign. -/
def fitsUnsigned (n : Int) : Bool := 0 ≤ n && n < 18446744073709551616

/-- As `signed?`, within 64 bits. -/
def int64? (text : List Char) : Option Int :=
  match signed? text with
  | some n => if fitsSigned n then some n else none
  | none => none

end WorkflowGraph.Number
