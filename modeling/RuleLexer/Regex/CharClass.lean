import RuleLexer.Unicode.CaseFolding
import RuleLexer.Unicode.Named

/-!
# Classes of characters

A class is a set expression over ranges and named properties. Membership is defined by recursion on
the expression, so each set operation means what its name says.
-/

namespace RuleLexer.Regex

/-- A set of characters. -/
inductive CharClass
  | empty
  | range (first last : Char)
  | property (property : Unicode.Property)
  | union (left right : CharClass)
  | inter (left right : CharClass)
  | diff (left right : CharClass)
  | symmDiff (left right : CharClass)
  | compl (body : CharClass)
  /-- Characters with a case variant in the class. -/
  | folded (body : CharClass)
  /-- Characters with an ASCII case variant in the class. -/
  | asciiFolded (body : CharClass)
  deriving DecidableEq, Repr

namespace CharClass

/-- Whether a character belongs to the class. -/
def contains : CharClass → Char → Bool
  | .empty, _ => false
  | .range first last, char => first ≤ char && char ≤ last
  | .property named, char => named.contains char
  | .union left right, char => left.contains char || right.contains char
  | .inter left right, char => left.contains char && right.contains char
  | .diff left right, char => left.contains char && !right.contains char
  | .symmDiff left right, char => left.contains char != right.contains char
  | .compl body, char => !body.contains char
  | .folded body, char => (Unicode.variants char).any body.contains
  | .asciiFolded body, char => (Unicode.asciiVariants char).any body.contains

def single (char : Char) : CharClass :=
  range char char

/-- The union of ranges. -/
def ofRanges : List (Char × Char) → CharClass
  | [] => empty
  | [(first, last)] => range first last
  | (first, last) :: rest => union (range first last) (ofRanges rest)

/-- Decimal digits of ASCII. -/
def asciiDigit : CharClass :=
  range '0' '9'

/-- Letters, digits and the underscore of ASCII. -/
def asciiWord : CharClass :=
  ofRanges [('0', '9'), ('A', 'Z'), ('_', '_'), ('a', 'z')]

/-- White space of ASCII. -/
def asciiSpace : CharClass :=
  ofRanges [('\t', '\r'), (' ', ' ')]

@[simp]
theorem contains_single (char other : Char) :
    (single char).contains other = decide (other = char) := by
  rw [Bool.eq_iff_iff]
  simp only [single, contains, Bool.and_eq_true, decide_eq_true_eq]
  exact ⟨fun bounds => Char.le_antisymm bounds.2 bounds.1, fun same => by simp [same]⟩

end CharClass

end RuleLexer.Regex
