/-!
# Binary numbers of double precision

A finite double is `m · 2 ^ e` with `m < 2 ^ 53` and `-1074 ≤ e ≤ 971`. A decimal number is rounded
to the nearest double, of two equally near ones to that with the even `m`. A double is shown by the
fewest decimal digits from which it would be read back, of several such numbers the nearest to it,
and of two equally near ones the greater. Everything is computed with whole numbers.
-/

namespace RuleLexer

/-- A number of double precision. -/
inductive Double
  | notANumber
  | infinite (negative : Bool)
  /-- The number of this magnitude: `mantissa · 2 ^ exponent`. -/
  | finite (negative : Bool) (mantissa : Nat) (exponent : Int)
  deriving DecidableEq, Repr, Inhabited

namespace Double

/-- The least mantissa that uses all its bits. -/
def fullMantissa : Nat := 0x10000000000000

/-- The least exponent of a finite double. -/
def minExponent : Int := -1074

/-- The greatest exponent of a finite double. -/
def maxExponent : Int := 971

/-- The quotient rounded to the nearest whole number, and of two equally near ones to the even
one. -/
def roundedQuotient (numerator denominator : Nat) : Nat :=
  let quotient := numerator / denominator
  let twice := 2 * (numerator % denominator)
  if twice < denominator then quotient
  else if denominator < twice then quotient + 1
  else quotient + quotient % 2

/-- Multiplies a fraction by a power of a base. -/
def scale (base : Nat) (exponent : Int) (fraction : Nat × Nat) : Nat × Nat :=
  match exponent with
  | .ofNat power => (fraction.1 * Nat.pow base power, fraction.2)
  | .negSucc power => (fraction.1, fraction.2 * Nat.pow base (power + 1))

/-- The exponent for a positive fraction: with it the mantissa has all its bits, unless the fraction
is too small for that. -/
def exponentFor (fraction : Nat × Nat) : Int :=
  let guess : Int := (fraction.1.log2 : Int) - fraction.2.log2 - 53
  let scaled := scale 2 (-guess) fraction
  let exponent := if scaled.1 < 2 * fullMantissa * scaled.2 then guess else guess + 1
  max exponent minExponent

/-- The double nearest to a positive fraction. -/
def ofFraction (negative : Bool) (fraction : Nat × Nat) : Double :=
  let exponent := exponentFor fraction
  let scaled := scale 2 (-exponent) fraction
  let mantissa := roundedQuotient scaled.1 scaled.2
  let (mantissa, exponent) :=
    if mantissa = 2 * fullMantissa then (fullMantissa, exponent + 1) else (mantissa, exponent)
  if maxExponent < exponent then .infinite negative else .finite negative mantissa exponent

/-- The number of decimal digits, at least one. -/
def digitCount (value : Nat) : Nat :=
  (Nat.toDigits 10 value).length

/-- Numbers of `10 ^ bound` or more are infinite as doubles, and the inverses of such numbers, up to
the factor `10 ^ 20`, are zero. -/
def decimalBound : Int := 310

/-- The double nearest to `digits · 10 ^ exponent`. -/
def ofDecimal (negative : Bool) (digits : Nat) (exponent : Int) : Double :=
  let magnitude := exponent + digitCount digits
  if digits = 0 ∨ magnitude < -decimalBound - 20 then .finite negative 0 minExponent
  else if decimalBound < magnitude then .infinite negative
  else ofFraction negative (scale 10 exponent (digits, 1))

/-- Whether `a / b` is between the fractions `low` and `high`, the ends counting if `closed`. -/
def liesBetween (closed : Bool) (low high fraction : Nat × Nat) : Bool :=
  if closed then
    decide (low.1 * fraction.2 ≤ fraction.1 * low.2 ∧ fraction.1 * high.2 ≤ high.1 * fraction.2)
  else
    decide (low.1 * fraction.2 < fraction.1 * low.2 ∧ fraction.1 * high.2 < high.1 * fraction.2)

/-- The numbers that are read as `mantissa · 2 ^ exponent` lie between these two fractions: the
halves of the ways to its two neighbours. -/
def readingBounds (mantissa : Nat) (exponent : Int) : (Nat × Nat) × (Nat × Nat) :=
  let below := if mantissa = fullMantissa ∧ minExponent < exponent then 4 * mantissa - 1
    else 4 * mantissa - 2
  (scale 2 exponent (below, 4), scale 2 exponent (4 * mantissa + 2, 4))

/-- The nearest multiple of `10 ^ power` that is read as `mantissa · 2 ^ exponent`, divided by
`10 ^ power`; the greater of two equally near ones. -/
def onGrid? (mantissa : Nat) (exponent power : Int) : Option Nat :=
  let (low, high) := readingBounds mantissa exponent
  let value := scale 10 (-power) (scale 2 exponent (mantissa, 1))
  let lower := value.1 / value.2
  let isRead (digits : Nat) :=
    liesBetween (mantissa % 2 == 0) low high (scale 10 power (digits, 1))
  match isRead lower, isRead (lower + 1) with
  | true, true =>
    some (if 2 * (value.1 % value.2) < value.2 then lower else lower + 1)
  | true, false => some lower
  | false, true => some (lower + 1)
  | false, false => none

/-- Tries finer and finer grids. -/
def searchGrids (mantissa : Nat) (exponent : Int) : Nat → Int → Nat × Int
  | 0, power => (mantissa, power)
  | fuel + 1, power =>
    match onGrid? mantissa exponent power with
    | some digits => (digits, power)
    | none => searchGrids mantissa exponent fuel (power - 1)

/-- The fewest digits, and the power of ten of the last one, for a positive double. The first grid
tried is coarser than the number; seventeen digits always suffice. -/
def shortestDigits (mantissa : Nat) (exponent : Int) : Nat × Int :=
  let value := scale 2 exponent (mantissa, 1)
  let power : Int :=
    if value.2 ≤ value.1 then digitCount (value.1 / value.2)
    else 1 - (digitCount (value.2 / value.1) : Int)
  searchGrids mantissa exponent 20 power

/-- A number in positional notation. -/
def positional (digits : Nat) (power : Int) : String :=
  match power with
  | .ofNat zeros => toString (digits * Nat.pow 10 zeros)
  | .negSucc places =>
    let unit := Nat.pow 10 (places + 1)
    let fraction := toString (digits % unit)
    toString (digits / unit) ++ "." ++
      String.ofList (List.replicate (places + 1 - fraction.length) '0') ++ fraction

/-- The magnitude of a finite double in positional notation, with at least one decimal place. -/
def describeMagnitude (mantissa : Nat) (exponent : Int) : String :=
  if mantissa = 0 then "0.0"
  else
    let (digits, power) := shortestDigits mantissa exponent
    let text := positional digits power
    if power < 0 then text else text ++ ".0"

def describe : Double → String
  | notANumber => "NaN"
  | infinite negative => if negative then "-inf" else "inf"
  | finite negative mantissa exponent =>
    (if negative then "-" else "") ++ describeMagnitude mantissa exponent

end Double

end RuleLexer
