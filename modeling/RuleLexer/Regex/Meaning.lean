import RuleLexer.Regex.Program
import RuleLexer.Regex.Reader

/-!
# What patterns mean

A pattern is turned into an expression under the flags in force. A flag directive changes the flags
for the parts to its right up to the end of its group; a group restores them. Outside Unicode mode
classes hold ASCII characters only, because a class of bytes could match part of a character.
-/

namespace RuleLexer.Regex

/-- The flags in force. -/
structure Flags where
  caseInsensitive : Bool := false
  multiLine : Bool := false
  dotMatchesNewline : Bool := false
  swapGreed : Bool := false
  /-- Classes and literals range over all characters. -/
  unicode : Bool := true
  /-- A carriage return ends lines too. -/
  crlf : Bool := false
  deriving DecidableEq, Repr

namespace Flags

/-- The flags after a list of changes. -/
def apply (flags : Flags) (changes : FlagChanges) : Flags where
  caseInsensitive := (changes.get? .caseInsensitive).getD flags.caseInsensitive
  multiLine := (changes.get? .multiLine).getD flags.multiLine
  dotMatchesNewline := (changes.get? .dotMatchesNewline).getD flags.dotMatchesNewline
  swapGreed := (changes.get? .swapGreed).getD flags.swapGreed
  unicode := (changes.get? .unicode).getD flags.unicode
  crlf := (changes.get? .crlf).getD flags.crlf

/-- The kind of word that word boundaries refer to. -/
def wordKind (flags : Flags) : WordKind :=
  if flags.unicode then .unicode else .ascii

/-- Closes a class under case variants if case does not matter. -/
def fold (flags : Flags) (chars : CharClass) : CharClass :=
  if flags.caseInsensitive then
    if flags.unicode then .folded chars else .asciiFolded chars
  else chars

/-- Closes a class under case variants and then complements it if it is negated. -/
def foldAndNegate (flags : Flags) (negated : Bool) (chars : CharClass) :
    Except PatternError CharClass :=
  if !negated then .ok (flags.fold chars)
  else if flags.unicode then .ok (.compl (flags.fold chars))
  else .error .partialCharacter

end Flags

namespace AsciiClass

def chars : AsciiClass → CharClass
  | alnum => .ofRanges [('0', '9'), ('A', 'Z'), ('a', 'z')]
  | alpha => .ofRanges [('A', 'Z'), ('a', 'z')]
  | ascii => .range '\x00' '\x7f'
  | blank => .ofRanges [('\t', '\t'), (' ', ' ')]
  | cntrl => .ofRanges [('\x00', '\x1f'), ('\x7f', '\x7f')]
  | digit => .asciiDigit
  | graph => .range '!' '~'
  | lower => .range 'a' 'z'
  | print => .range ' ' '~'
  | punct => .ofRanges [('!', '/'), (':', '@'), ('[', '\x60'), ('\x7b', '~')]
  | space => .asciiSpace
  | upper => .range 'A' 'Z'
  | word => .asciiWord
  | xdigit => .ofRanges [('0', '9'), ('A', 'F'), ('a', 'f')]

end AsciiClass

namespace PerlClass

def chars (unicode : Bool) : PerlClass → CharClass
  | digit => if unicode then .property (.category .decimalNumber) else .asciiDigit
  | space => if unicode then .property (.binary .whiteSpace) else .asciiSpace
  | word => if unicode then .property .wordChar else .asciiWord

/-- The characters of a class or of its complement. -/
def meaning (flags : Flags) (kind : PerlClass) (negated : Bool) : Except PatternError CharClass :=
  let chars := kind.chars flags.unicode
  if !negated then .ok chars
  else if flags.unicode then .ok (.compl chars)
  else .error .partialCharacter

end PerlClass

namespace PropertyName

/-- The characters with a property. -/
def meaning (flags : Flags) (name : PropertyName) (negated : Bool) :
    Except PatternError CharClass :=
  if !flags.unicode then .error .unicodeRequired
  else
    let found := match name with
      | .name single => Unicode.Property.named? single
      | .value key chosen => Unicode.Property.valued? key chosen
    match found with
    | none => .error .propertyUnknown
    | some property => flags.foldAndNegate negated (.property property)

end PropertyName

namespace Literal

/-- The character that a literal of a class stands for. -/
def classChar (flags : Flags) (literal : Literal) : Except PatternError Char :=
  if flags.unicode || literal.char.toNat < 128 then .ok literal.char
  else if literal.isByte then .error .partialCharacter
  else .error .unicodeRequired

/-- The expression of a literal outside classes. -/
def meaning (flags : Flags) (literal : Literal) : Except PatternError Expr :=
  let char := literal.char
  if !flags.unicode && literal.isByte && 128 ≤ char.toNat then .error .partialCharacter
  else if !flags.caseInsensitive then .ok (.set (.single char))
  else
    let variants := if flags.unicode then Unicode.variants char else Unicode.asciiVariants char
    .ok (.set (.ofRanges (variants.map fun variant => (variant, variant))))

end Literal

namespace SetOp

/-- The set operation on classes. -/
def apply : SetOp → CharClass → CharClass → CharClass
  | intersection => .inter
  | difference => .diff
  | symmetricDifference => .symmDiff

end SetOp

namespace ClassSet

/-- The characters of the inside of a class. -/
def meaning (flags : Flags) : ClassSet → Except PatternError CharClass
  | .empty => .ok .empty
  | .literal char => return .single (← char.classChar flags)
  | .range first last => return .range (← first.classChar flags) (← last.classChar flags)
  | .perl kind negated => kind.meaning flags negated
  | .ascii kind negated => flags.foldAndNegate negated kind.chars
  | .property name negated => name.meaning flags negated
  | .union items item => return .union (← items.meaning flags) (← item.meaning flags)
  | .bracketed negated set => do flags.foldAndNegate negated (← set.meaning flags)
  | .operation op left right =>
    return op.apply (flags.fold (← left.meaning flags)) (flags.fold (← right.meaning flags))

end ClassSet

namespace AssertionName

/-- The assertion that a name stands for. -/
def meaning (flags : Flags) : AssertionName → Assertion
  | lineStart =>
    if !flags.multiLine then .textStart else if flags.crlf then .crlfLineStart else .lineStart
  | lineEnd =>
    if !flags.multiLine then .textEnd else if flags.crlf then .crlfLineEnd else .lineEnd
  | textStart => .textStart
  | textEnd => .textEnd
  | wordBoundary => .wordBoundary flags.wordKind
  | notWordBoundary => .notWordBoundary flags.wordKind
  | wordStart => .wordStart flags.wordKind
  | wordEnd => .wordEnd flags.wordKind
  | wordStartHalf => .wordStartHalf flags.wordKind
  | wordEndHalf => .wordEndHalf flags.wordKind

end AssertionName

namespace Pattern

/-- The characters that a dot matches. -/
def dotMeaning (flags : Flags) : Except PatternError CharClass :=
  if !flags.unicode then .error .partialCharacter
  else if flags.dotMatchesNewline then .ok (.compl .empty)
  else if flags.crlf then .ok (.compl (.ofRanges [('\n', '\n'), ('\r', '\r')]))
  else .ok (.compl (.single '\n'))

/-- The expression of a pattern under the given flags, and the flags in force after it. -/
def meaning (flags : Flags) : Pattern → Except PatternError (Expr × Flags)
  | .empty => .ok (.empty, flags)
  | .flags changes => .ok (.empty, flags.apply changes)
  | .literal char => return (← char.meaning flags, flags)
  | .dot => return (.set (← dotMeaning flags), flags)
  | .assertion name => .ok (.look (name.meaning flags), flags)
  | .perl kind negated => return (.set (← kind.meaning flags negated), flags)
  | .property name negated => return (.set (← name.meaning flags negated), flags)
  | .bracketed negated set => do
    let chars ← set.meaning flags
    return (.set (← flags.foldAndNegate negated chars), flags)
  | .repetition least most greedy body => do
    let (inner, flags) ← body.meaning flags
    return (.repeated (greedy != flags.swapGreed) least most inner, flags)
  | .capture index body => do
    let (inner, _) ← body.meaning flags
    return (.group index inner, flags)
  | .within changes body => do
    let (inner, _) ← body.meaning (flags.apply changes)
    return (inner, flags)
  | .concat parts part => do
    let (first, flags) ← parts.meaning flags
    let (second, flags) ← part.meaning flags
    return (.seq first second, flags)
  | .alternation alternatives alternative => do
    let (preferred, flags) ← alternatives.meaning flags
    let (other, flags) ← alternative.meaning flags
    return (.alt preferred other, flags)

def toExpr (pattern : Pattern) : Except PatternError Expr := do
  let (expr, _) ← pattern.meaning {}
  return expr

end Pattern

/-- The program of a written pattern. It may be of any size: a limit on the space that a compiled
pattern takes, at which large repetitions would be refused, is left out. -/
def Program.ofText (text : String) : Except PatternError Program := do
  let pattern ← Pattern.read text.toList
  let expr ← pattern.toExpr
  return expr.toProgram

end RuleLexer.Regex
