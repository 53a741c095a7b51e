import RuleLexer.Unicode.Property

/-!
# Identifiers

The characters of identifiers: with which one may begin, and with which it may go on.
-/

namespace RuleLexer.Unicode

/-- Characters of identifiers that normalization turns into others which are not. -/
def unstableIdentifierTable : Table :=
  [⟨0x37A, 0x37A, 1⟩, ⟨0x309B, 0x309C, 1⟩, ⟨0xFC5E, 0xFC63, 1⟩, ⟨0xFDFA, 0xFDFB, 1⟩,
   ⟨0xFE70, 0xFE7E, 2⟩]

/-- Characters of pattern languages, which identifiers leave to them. -/
def isPatternChar (char : Char) : Bool :=
  patternSyntaxTable.contains char || patternWhiteSpaceTable.contains char

/-- Whether an identifier may begin with a character. -/
def isIdStart (char : Char) : Bool :=
  (isLetter char || GeneralCategory.letterNumber.contains char ||
    otherIdStartTable.contains char) && !isPatternChar char

/-- Whether an identifier may go on with a character. -/
def isIdContinue (char : Char) : Bool :=
  isIdStart char ||
    ((GeneralCategory.nonspacingMark.contains char || GeneralCategory.spacingMark.contains char ||
      GeneralCategory.decimalNumber.contains char ||
      GeneralCategory.connectorPunctuation.contains char || otherIdContinueTable.contains char) &&
      !isPatternChar char)

/-- Whether an identifier that stays one under normalization may go on with a character. -/
def isXidContinue (char : Char) : Bool :=
  isIdContinue char && !unstableIdentifierTable.contains char

/-- Whether an identifier that stays one under normalization may begin with a character. The vowel
signs am of Thai and Lao and the marks of half-width Katakana turn into characters that may only go
on. -/
def isXidStart (char : Char) : Bool :=
  isIdStart char && !unstableIdentifierTable.contains char && char != '\u0e33' &&
    char != '\u0eb3' && char != '\uff9e' && char != '\uff9f'

end RuleLexer.Unicode
