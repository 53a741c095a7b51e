import RuleLexer.Unicode.Property

/-!
# Assertions

An assertion holds between two characters of the text, or at an end of it. It looks at the character
before the position and at the character after it and consumes nothing.
-/

namespace RuleLexer.Regex

/-- The characters around a position; `none` stands for an end of the text. -/
structure Surroundings where
  previous : Option Char
  next : Option Char
  deriving DecidableEq, Repr

/-- Which characters make up words. -/
inductive WordKind
  | unicode
  | ascii
  deriving DecidableEq, Repr

namespace WordKind

/-- Whether a character belongs to words. -/
def contains : WordKind → Char → Bool
  | unicode, char => Unicode.isWordChar char
  | ascii, char => char.isAlphanum || char == '_'

/-- Whether there is a character and it belongs to words. -/
def at? (kind : WordKind) : Option Char → Bool
  | none => false
  | some char => kind.contains char

end WordKind

/-- A condition on a position of the text. -/
inductive Assertion
  | textStart
  | textEnd
  | lineStart
  | lineEnd
  /-- Start of a line, where a carriage return and a line feed may end lines together or alone. -/
  | crlfLineStart
  /-- End of a line, where a carriage return and a line feed may end lines together or alone. -/
  | crlfLineEnd
  | wordBoundary (kind : WordKind)
  | notWordBoundary (kind : WordKind)
  | wordStart (kind : WordKind)
  | wordEnd (kind : WordKind)
  /-- No word reaches up to here from the left. -/
  | wordStartHalf (kind : WordKind)
  /-- No word begins here to the right. -/
  | wordEndHalf (kind : WordKind)
  deriving DecidableEq, Repr

namespace Assertion

/-- Whether the assertion holds at a position with the given surroundings. -/
def holds (assertion : Assertion) (around : Surroundings) : Bool :=
  match assertion with
  | textStart => around.previous.isNone
  | textEnd => around.next.isNone
  | lineStart => around.previous.isNone || around.previous == some '\n'
  | lineEnd => around.next.isNone || around.next == some '\n'
  | crlfLineStart =>
    around.previous.isNone || around.previous == some '\n' ||
      (around.previous == some '\r' && around.next != some '\n')
  | crlfLineEnd =>
    around.next.isNone || around.next == some '\r' ||
      (around.next == some '\n' && around.previous != some '\r')
  | wordBoundary kind => kind.at? around.previous != kind.at? around.next
  | notWordBoundary kind => kind.at? around.previous == kind.at? around.next
  | wordStart kind => !kind.at? around.previous && kind.at? around.next
  | wordEnd kind => kind.at? around.previous && !kind.at? around.next
  | wordStartHalf kind => !kind.at? around.previous
  | wordEndHalf kind => !kind.at? around.next

end Assertion

end RuleLexer.Regex
