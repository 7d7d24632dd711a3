import WorkflowGraph.Number.Digits

/-!
# Binary floating-point numbers of 64 bits

A finite number is a sign and `mantissa * 2 ^ exponent`, in its one canonical form: the mantissa
has at most 53 bits, and has 53 of them unless the exponent is the least one.  Everything is
exact arithmetic on natural numbers, so that what is rounded and how can be read off.

`ofQuotient` and `ofDecimal` round to the nearest number, a half to the even neighbour;
`shortest` gives the fewest decimal digits that read back, and of these the nearest.
-/

namespace WorkflowGraph.Number

/-- A floating-point number of 64 bits, other than the ones that are not numbers. -/
inductive Binary64 where
  | finite (negative : Bool) (mantissa : Nat) (exponent : Int)
  | infinite (negative : Bool)
deriving DecidableEq, Repr

namespace Binary64

/-- The exponent of the least numbers. -/
def leastExponent : Int := -1074

/-- The exponent of the greatest numbers. -/
def greatestExponent : Int := 971

def zero : Binary64 := .finite false 0 leastExponent

instance : Inhabited Binary64 := ⟨zero⟩

/-- The quotient rounded to the nearest whole number, a half to the even one. -/
def roundDiv (num den : Nat) : Nat :=
  let q := num / den
  let r := num % den
  if 2 * r < den then q else if 2 * r > den then q + 1 else q + q % 2

/-- `num * 2 ^ shift / den`, as a quotient of natural numbers. -/
def scaled (num den : Nat) (shift : Int) : Nat × Nat :=
  match shift with
  | .ofNat n => (num * powerOfTwo n, den)
  | .negSucc n => (num, den * powerOfTwo (n + 1))

/-- The canonical form of `mantissa * 2 ^ exponent` for a mantissa of at most `2 ^ 53`. -/
def canonical (negative : Bool) (mantissa : Nat) (exponent : Int) : Binary64 :=
  let (mantissa, exponent) :=
    if mantissa = powerOfTwo 53 then (powerOfTwo 52, exponent + 1) else (mantissa, exponent)
  if mantissa = 0 then .finite negative 0 leastExponent
  else if exponent > greatestExponent then .infinite negative
  else .finite negative mantissa exponent

/-- The exponent with which `num / den` has a mantissa of 53 bits. -/
def quotientExponent (num den : Nat) : Int :=
  let guess : Int := (Nat.log2 num : Int) - (Nat.log2 den : Int) - 52
  let quotient := scaled num den (-guess)
  if quotient.1 < quotient.2 * powerOfTwo 52 then guess - 1 else guess

/-- The number nearest to `num / den`. -/
def ofQuotient (negative : Bool) (num den : Nat) : Binary64 :=
  if num = 0 || den = 0 then .finite negative 0 leastExponent
  else
    let exponent := max leastExponent (quotientExponent num den)
    let quotient := scaled num den (-exponent)
    canonical negative (roundDiv quotient.1 quotient.2) exponent

/-- `number * 10 ^ power`, as a quotient of natural numbers. -/
def decimalQuotient (number : Nat) (power : Int) : Nat × Nat :=
  match power with
  | .ofNat n => (number * powerOfTen n, 1)
  | .negSucc n => (number, powerOfTen (n + 1))

/-- The number nearest to `number * 10 ^ power`.  Far outside the range the power is never
computed. -/
def ofDecimal (negative : Bool) (number : Nat) (power : Int) : Binary64 :=
  let magnitude : Int := (Number.digits number).length + power
  if number = 0 || magnitude < -400 then .finite negative 0 leastExponent
  else if magnitude > 400 then .infinite negative
  else
    let quotient := decimalQuotient number power
    ofQuotient negative quotient.1 quotient.2

/-- The number nearest to an integer. -/
def ofInt (n : Int) : Binary64 := ofQuotient (n < 0) n.natAbs 1

/-- The digits of an exponent and its sign. -/
def exponent? : List Char → Option Int
  | 'e' :: rest => signed? rest
  | 'E' :: rest => signed? rest
  | _ => none

/-- Reads an unsigned decimal as a number and a power of ten: digits with a point among them or
none, then an exponent or none. -/
def decimal? (text : List Char) : Option (Nat × Int) :=
  let (whole, rest) := text.span Char.isDigit
  let (fraction, rest) := match rest with
    | '.' :: rest => rest.span Char.isDigit
    | rest => ([], rest)
  if whole.isEmpty && fraction.isEmpty then none
  else
    let number := ofDigits (whole ++ fraction)
    let power : Int := -(fraction.length : Int)
    if rest.isEmpty then some (number, power)
    else (exponent? rest).map fun e => (number, power + e)

/-- Whether a text starts with a minus sign, and the text after its sign. -/
def splitSign : List Char → Bool × List Char
  | '-' :: rest => (true, rest)
  | '+' :: rest => (false, rest)
  | rest => (false, rest)

/-- Reads a decimal with a sign or none. -/
def ofText? (text : List Char) : Option Binary64 :=
  (decimal? (splitSign text).2).map fun decimal =>
    ofDecimal (splitSign text).1 decimal.1 decimal.2

/-! ## The shortest decimal -/

/-- Whether `number * 10 ^ power` lies between two bounds, given in units of `2 ^ exponent`;
`closed` says whether the bounds belong to the interval. -/
def decimalWithin (low high : Nat) (exponent : Int) (closed : Bool) (number : Nat) (power : Int) :
    Bool :=
  let quotient := decimalQuotient number power
  let quotient := scaled quotient.1 quotient.2 (-exponent)
  if closed then low * quotient.2 ≤ quotient.1 && quotient.1 ≤ high * quotient.2
  else low * quotient.2 < quotient.1 && quotient.1 < high * quotient.2

/-- How far the interval of a number goes down, in quarters of a unit of its last place: below a
power of two the numbers lie closer. -/
def reachBelow (mantissa : Nat) (exponent : Int) : Nat :=
  if mantissa = powerOfTwo 52 && exponent > leastExponent then 1 else 2

/-- Whether `number * 10 ^ power` is nearest to `mantissa * 2 ^ exponent`. -/
def readsBack (mantissa : Nat) (exponent : Int) (number : Nat) (power : Int) : Bool :=
  decimalWithin (4 * mantissa - reachBelow mantissa exponent) (4 * mantissa + 2) (exponent - 2)
    (mantissa % 2 == 0) number power

/-- `num / den / 10 ^ power`, as a quotient of natural numbers. -/
def dividedByTen (num den : Nat) (power : Int) : Nat × Nat :=
  match power with
  | .ofNat n => (num, den * powerOfTen n)
  | .negSucc n => (num * powerOfTen (n + 1), den)

/-- The whole part of `mantissa * 2 ^ exponent / 10 ^ power`, and whether the rest is at least a
half. -/
def quotientBy (mantissa : Nat) (exponent power : Int) : Nat × Bool :=
  let quotient := scaled mantissa 1 exponent
  let quotient := dividedByTen quotient.1 quotient.2 power
  (quotient.1 / quotient.2, 2 * (quotient.1 % quotient.2) ≥ quotient.2)

/-- The decimal place of the leading digit of `mantissa * 2 ^ exponent`: `k` with
`10 ^ k ≤ value < 10 ^ (k + 1)`. -/
def leadingPlace (mantissa : Nat) (exponent : Int) : Int :=
  let quotient := scaled mantissa 1 exponent
  let place : Int := ((digits quotient.1).length : Int) - (digits quotient.2).length
  let leading := dividedByTen quotient.1 quotient.2 place
  if leading.1 < leading.2 then place - 1 else place

/-- The decimal with `count` digits, or the first longer one, that reads back; `left` bounds how
many more lengths are tried. -/
def shortestFrom (mantissa : Nat) (exponent : Int) (place : Int) : Nat → Nat → Nat × Int
  | 0, _ => (mantissa, 0)
  | left + 1, count =>
    let power := place - (count : Int) + 1
    let (below, half) := quotientBy mantissa exponent power
    let (nearer, farther) := if half then (below + 1, below) else (below, below + 1)
    if readsBack mantissa exponent nearer power then (nearer, power)
    else if readsBack mantissa exponent farther power then (farther, power)
    else shortestFrom mantissa exponent place left (count + 1)

/-- Moves trailing zeros of a number into its power of ten. -/
def withoutZeros : Nat → Nat → Int → Nat × Int
  | 0, number, power => (number, power)
  | count + 1, number, power =>
    if number ≠ 0 && number % 10 = 0 then withoutZeros count (number / 10) (power + 1)
    else (number, power)

/-- The fewest digits that read back, as a number and a power of ten. -/
def shortest (mantissa : Nat) (exponent : Int) : Nat × Int :=
  if mantissa = 0 then (0, 0)
  else
    let (number, power) := shortestFrom mantissa exponent (leadingPlace mantissa exponent) 17 1
    withoutZeros 20 number power

/-- Where a decimal text changes from plain to exponent notation: plain from `10 ^ low` up to
but not including `10 ^ high`. -/
structure Layout where
  low : Int
  high : Int
deriving DecidableEq, Repr

/-- An exponent with its sign. -/
def exponentText (place : Int) : String :=
  if place < 0 then intText place else "+" ++ intText place

/-- Digits and a power of ten as text.  Plain notation has at least one decimal; in exponent
notation the exponent always has a sign. -/
def decimalText (layout : Layout) (number : Nat) (power : Int) : String :=
  let text := digits number
  let place : Int := (text.length : Int) - 1 + power
  if number = 0 then "0.0"
  else if layout.low ≤ place && place < layout.high then
    String.ofList <|
      if 0 ≤ power then text ++ List.replicate power.toNat '0' ++ ['.', '0']
      else if 0 ≤ place then
        text.take (place.toNat + 1) ++ '.' :: text.drop (place.toNat + 1)
      else '0' :: '.' :: List.replicate (-place - 1).toNat '0' ++ text
  else
    let mantissa := match text with
      | [] => []
      | [digit] => [digit]
      | digit :: others => digit :: '.' :: others
    String.ofList mantissa ++ "e" ++ exponentText place

/-- The shortest text that reads back; an infinite number has none. -/
def text? (layout : Layout) : Binary64 → Option String
  | .infinite _ => none
  | .finite negative mantissa exponent =>
    let (number, power) := shortest mantissa exponent
    let text := decimalText layout number power
    some (if negative then "-" ++ text else text)

/-- A text of digits with a point before the last `places` ones, and a digit before the point. -/
def pointed (places number : Nat) : String :=
  let text := digits number
  let text := List.replicate (places + 1 - text.length) '0' ++ text
  String.ofList (text.take (text.length - places) ++ '.' :: text.drop (text.length - places))

/-- The text with a fixed number of decimals, one or more; a half goes to the even neighbour. -/
def fixedText (places : Nat) : Binary64 → String
  | .infinite negative => if negative then "-inf" else "inf"
  | .finite negative mantissa exponent =>
    let (num, den) := scaled (mantissa * powerOfTen places) 1 exponent
    let text := pointed places (roundDiv num den)
    if negative then "-" ++ text else text

end Binary64

end WorkflowGraph.Number
