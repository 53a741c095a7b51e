import RuleLexer.Unicode.GeneralCategory
import RuleLexer.Unicode.PropertyList

/-!
# Properties of characters

The properties that lexing rests on: letters, white space, decimal digits, the characters of words.
Each is built from general categories and a list of further characters, as the standard defines it.
-/

namespace RuleLexer.Unicode

/-- Letters of any kind. -/
def isLetter (char : Char) : Bool :=
  GeneralCategory.uppercaseLetter.contains char || GeneralCategory.lowercaseLetter.contains char ||
    GeneralCategory.titlecaseLetter.contains char || GeneralCategory.modifierLetter.contains char ||
    GeneralCategory.otherLetter.contains char

/-- Marks of any kind. -/
def isMark (char : Char) : Bool :=
  GeneralCategory.nonspacingMark.contains char || GeneralCategory.spacingMark.contains char ||
    GeneralCategory.enclosingMark.contains char

/-- Numbers of any kind. -/
def isNumber (char : Char) : Bool :=
  GeneralCategory.decimalNumber.contains char || GeneralCategory.letterNumber.contains char ||
    GeneralCategory.otherNumber.contains char

/-- Punctuation of any kind. -/
def isPunctuation (char : Char) : Bool :=
  GeneralCategory.connectorPunctuation.contains char ||
    GeneralCategory.dashPunctuation.contains char ||
    GeneralCategory.openPunctuation.contains char ||
    GeneralCategory.closePunctuation.contains char ||
    GeneralCategory.initialPunctuation.contains char ||
    GeneralCategory.finalPunctuation.contains char || GeneralCategory.otherPunctuation.contains char

/-- Symbols of any kind. -/
def isSymbol (char : Char) : Bool :=
  GeneralCategory.mathSymbol.contains char || GeneralCategory.currencySymbol.contains char ||
    GeneralCategory.modifierSymbol.contains char || GeneralCategory.otherSymbol.contains char

/-- Spaces and separators of lines and paragraphs. -/
def isSeparator (char : Char) : Bool :=
  GeneralCategory.spaceSeparator.contains char || GeneralCategory.lineSeparator.contains char ||
    GeneralCategory.paragraphSeparator.contains char

/-- Whether the standard assigns a meaning to the character. -/
def isAssigned (char : Char) : Bool :=
  GeneralCategory.all.any (·.contains char)

/-- Alphabetic characters: letters, letter-like numbers and the dependent vowel signs. -/
def isAlphabetic (char : Char) : Bool :=
  isLetter char || GeneralCategory.letterNumber.contains char || otherAlphabeticTable.contains char

/-- Small letters and the characters that count as such. -/
def isLowercase (char : Char) : Bool :=
  GeneralCategory.lowercaseLetter.contains char || otherLowercaseTable.contains char

/-- Capital letters and the characters that count as such. -/
def isUppercase (char : Char) : Bool :=
  GeneralCategory.uppercaseLetter.contains char || otherUppercaseTable.contains char

/-- Characters with an upper, lower or title case. -/
def isCased (char : Char) : Bool :=
  isLowercase char || isUppercase char || GeneralCategory.titlecaseLetter.contains char

def isWhiteSpace (char : Char) : Bool :=
  whiteSpaceTable.contains char

/-- Decimal digits of any script. -/
def isDecimalDigit (char : Char) : Bool :=
  GeneralCategory.decimalNumber.contains char

/-- The zero-width joiner and non-joiner. -/
def isJoinControl (char : Char) : Bool :=
  char == '\u200c' || char == '\u200d'

/-- Characters of words: alphabetic characters, marks, decimal digits, connecting punctuation and
the join controls. -/
def isWordChar (char : Char) : Bool :=
  isAlphabetic char || isMark char || isDecimalDigit char ||
    GeneralCategory.connectorPunctuation.contains char || isJoinControl char

/-- Alphabetic characters and numbers. -/
def isAlphanumeric (char : Char) : Bool :=
  isAlphabetic char || isNumber char

/-- Characters that attach to the character before them. -/
def isGraphemeExtend (char : Char) : Bool :=
  GeneralCategory.nonspacingMark.contains char || GeneralCategory.enclosingMark.contains char ||
    otherGraphemeExtendTable.contains char

/-- Characters that take part in a grapheme without attaching to another one. -/
def isGraphemeBase (char : Char) : Bool :=
  isAssigned char && !isGraphemeExtend char && !GeneralCategory.control.contains char &&
    !GeneralCategory.format.contains char && !GeneralCategory.privateUse.contains char &&
    !GeneralCategory.lineSeparator.contains char &&
    !GeneralCategory.paragraphSeparator.contains char

/-- Mathematical symbols and the characters that count as such. -/
def isMath (char : Char) : Bool :=
  GeneralCategory.mathSymbol.contains char || otherMathTable.contains char

/-- Format characters that have a visible form: annotation marks, the joiners of hieroglyphs, and
the signs that enclose digits. -/
def isVisibleFormat (char : Char) : Bool :=
  (0xFFF9 ≤ char.toNat && char.toNat ≤ 0xFFFB) ||
    (0x13430 ≤ char.toNat && char.toNat ≤ 0x13440) ||
    prependedConcatenationMarkTable.contains char

/-- Characters that are left out in display where they have no effect. -/
def isDefaultIgnorable (char : Char) : Bool :=
  (otherDefaultIgnorableTable.contains char || GeneralCategory.format.contains char ||
    variationSelectorTable.contains char) && !isVisibleFormat char

/-- Code points that never stand for a character. -/
def isNoncharacter (char : Char) : Bool :=
  (0xFDD0 ≤ char.toNat && char.toNat ≤ 0xFDEF) || 0xFFFE ≤ char.toNat % 0x10000

/-- Characters that end a line or only direct the display. -/
def isControlLike (char : Char) : Bool :=
  GeneralCategory.control.contains char || GeneralCategory.format.contains char ||
    GeneralCategory.lineSeparator.contains char ||
    GeneralCategory.paragraphSeparator.contains char ||
    (!isAssigned char && isDefaultIgnorable char)

end RuleLexer.Unicode
