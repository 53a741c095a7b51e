/-!
# Tables of code points

A property of characters is stored as an ascending list of stretches. A stretch holds the code
points `first`, `first + step`, … up to `last`; a step of two covers the alternating capital and
small letters of many alphabets. Membership stops at the first stretch that begins beyond the
character, so a test for an ASCII character looks at few rows.
-/

namespace RuleLexer.Unicode

/-- The code points from `first` to `last` at distance `step`. -/
structure Stretch where
  first : Nat
  last : Nat
  step : Nat
  deriving DecidableEq, Repr

namespace Stretch

/-- Whether a code point lies in the stretch. -/
def contains (stretch : Stretch) (code : Nat) : Bool :=
  stretch.first ≤ code && code ≤ stretch.last && (code - stretch.first) % stretch.step == 0

end Stretch

/-- An ascending list of stretches. -/
abbrev Table := List Stretch

namespace Table

/-- Whether a code point lies in an ascending table. -/
def containsCode (code : Nat) : Table → Bool
  | [] => false
  | stretch :: rest =>
    if code < stretch.first then false
    else if stretch.contains code then true
    else containsCode code rest

/-- Whether a character lies in an ascending table. -/
def contains (table : Table) (char : Char) : Bool :=
  containsCode char.toNat table

end Table

end RuleLexer.Unicode
