import RuleLexer.Unicode.Emoji
import RuleLexer.Unicode.Property
import RuleLexer.Unicode.Script

/-!
# Division into words

Where a word of a text ends is decided by the kinds of the characters on both sides.
-/

namespace RuleLexer.Unicode

/-- Letters of scripts that write words without blanks between them. -/
def unspacedLetterTable : Table :=
  [⟨0xE01, 0xE30, 1⟩, ⟨0xE32, 0xE33, 1⟩, ⟨0xE40, 0xE46, 1⟩, ⟨0xE81, 0xE82, 1⟩, ⟨0xE84, 0xE84, 1⟩,
   ⟨0xE86, 0xE8A, 1⟩, ⟨0xE8C, 0xEA3, 1⟩, ⟨0xEA5, 0xEA5, 1⟩, ⟨0xEA7, 0xEB0, 1⟩, ⟨0xEB2, 0xEB3, 1⟩,
   ⟨0xEBD, 0xEBD, 1⟩, ⟨0xEC0, 0xEC4, 1⟩, ⟨0xEC6, 0xEC6, 1⟩, ⟨0xEDC, 0xEDF, 1⟩, ⟨0x1000, 0x102A, 1⟩,
   ⟨0x103F, 0x103F, 1⟩, ⟨0x1050, 0x1055, 1⟩, ⟨0x105A, 0x105D, 1⟩, ⟨0x1061, 0x1061, 1⟩,
   ⟨0x1065, 0x1066, 1⟩, ⟨0x106E, 0x1070, 1⟩, ⟨0x1075, 0x1081, 1⟩, ⟨0x108E, 0x108E, 1⟩,
   ⟨0x1780, 0x17B3, 1⟩, ⟨0x17D7, 0x17D7, 1⟩, ⟨0x17DC, 0x17DC, 1⟩, ⟨0x1950, 0x196D, 1⟩,
   ⟨0x1970, 0x1974, 1⟩, ⟨0x1980, 0x19AB, 1⟩, ⟨0x19B0, 0x19C9, 1⟩, ⟨0x1A20, 0x1A54, 1⟩,
   ⟨0x1AA7, 0x1AA7, 1⟩, ⟨0xA9E0, 0xA9E4, 1⟩, ⟨0xA9E6, 0xA9EF, 1⟩, ⟨0xA9FA, 0xA9FE, 1⟩,
   ⟨0xAA60, 0xAA76, 1⟩, ⟨0xAA7A, 0xAA7A, 1⟩, ⟨0xAA7E, 0xAAAF, 1⟩, ⟨0xAAB1, 0xAAB1, 1⟩,
   ⟨0xAAB5, 0xAAB6, 1⟩, ⟨0xAAB9, 0xAABD, 1⟩, ⟨0xAAC0, 0xAAC2, 2⟩, ⟨0xAADB, 0xAADD, 1⟩,
   ⟨0x11700, 0x1171A, 1⟩, ⟨0x11740, 0x11746, 1⟩]

/-- Further characters that act like letters in words. -/
def letterLikeTable : Table :=
  [⟨0x2C2, 0x2C5, 1⟩, ⟨0x2D2, 0x2D7, 1⟩, ⟨0x2DE, 0x2DF, 1⟩, ⟨0x2E5, 0x2EB, 1⟩, ⟨0x2ED, 0x2ED, 1⟩,
   ⟨0x2EF, 0x2FF, 1⟩, ⟨0x55A, 0x55C, 1⟩, ⟨0x55E, 0x55E, 1⟩, ⟨0x58A, 0x58A, 1⟩, ⟨0x5F3, 0x5F3, 1⟩,
   ⟨0x70F, 0x70F, 1⟩, ⟨0xA708, 0xA716, 1⟩, ⟨0xA720, 0xA721, 1⟩, ⟨0xA789, 0xA78A, 1⟩,
   ⟨0xAB5B, 0xAB5B, 1⟩]

/-- Characters that go with Katakana. -/
def katakanaLikeTable : Table :=
  [⟨0x3031, 0x3035, 1⟩, ⟨0x309B, 0x309C, 1⟩, ⟨0x30A0, 0x30A0, 1⟩, ⟨0x30FC, 0x30FC, 1⟩,
   ⟨0xFF70, 0xFF70, 1⟩]

/-- Characters that act like digits in numbers. -/
def digitLikeTable : Table :=
  [⟨0x600, 0x605, 1⟩, ⟨0x66B, 0x66B, 1⟩, ⟨0x6DD, 0x6DD, 1⟩, ⟨0x890, 0x891, 1⟩, ⟨0x8E2, 0x8E2, 1⟩,
   ⟨0x19DA, 0x19DA, 1⟩, ⟨0x110BD, 0x110BD, 1⟩, ⟨0x110CD, 0x110CD, 1⟩]

/-- Punctuation inside words. -/
def middleOfWordTable : Table :=
  [⟨0x3A, 0x3A, 1⟩, ⟨0xB7, 0xB7, 1⟩, ⟨0x387, 0x387, 1⟩, ⟨0x55F, 0x55F, 1⟩, ⟨0x5F4, 0x5F4, 1⟩,
   ⟨0x2027, 0x2027, 1⟩, ⟨0xFE13, 0xFE13, 1⟩, ⟨0xFE55, 0xFE55, 1⟩, ⟨0xFF1A, 0xFF1A, 1⟩]

/-- Punctuation inside numbers. -/
def middleOfNumberTable : Table :=
  [⟨0x2C, 0x2C, 1⟩, ⟨0x3B, 0x3B, 1⟩, ⟨0x37E, 0x37E, 1⟩, ⟨0x589, 0x589, 1⟩, ⟨0x60C, 0x60D, 1⟩,
   ⟨0x66C, 0x66C, 1⟩, ⟨0x7F8, 0x7F8, 1⟩, ⟨0x2044, 0x2044, 1⟩, ⟨0xFE50, 0xFE50, 1⟩,
   ⟨0xFE54, 0xFE54, 1⟩, ⟨0xFF0C, 0xFF0C, 1⟩, ⟨0xFF1B, 0xFF1B, 1⟩]

/-- Punctuation inside words and numbers. -/
def middleOfEitherTable : Table :=
  [⟨0x2E, 0x2E, 1⟩, ⟨0x2018, 0x2019, 1⟩, ⟨0x2024, 0x2024, 1⟩, ⟨0xFE52, 0xFE52, 1⟩,
   ⟨0xFF07, 0xFF07, 1⟩, ⟨0xFF0E, 0xFF0E, 1⟩]

/-- How a character takes part in the division of a text into words. -/
inductive WordBreak
  | carriageReturn
  | lineFeed
  | newline
  | extend
  | joiner
  | format
  | regionalIndicator
  | katakana
  | hebrewLetter
  | letter
  | singleQuote
  | doubleQuote
  | middleOfEither
  | middleOfWord
  | middleOfNumber
  | numeric
  | connector
  | blank
  deriving DecidableEq, Repr

namespace WordBreak

/-- Characters that extend the one before them. -/
def isExtend (char : Char) : Bool :=
  isGraphemeExtend char || GeneralCategory.spacingMark.contains char ||
    emojiModifierTable.contains char

/-- Katakana and what goes with it. -/
def isKatakana (char : Char) : Bool :=
  katakanaScript.table.contains char || katakanaLikeTable.contains char

/-- Letters of the Hebrew script. -/
def isHebrewLetter (char : Char) : Bool :=
  hebrewScript.table.contains char && GeneralCategory.otherLetter.contains char

/-- Letters of scripts that write words with blanks between them. -/
def isLetter (char : Char) : Bool :=
  letterLikeTable.contains char ||
    (isAlphabetic char && !isExtend char && !ideographicTable.contains char && !isKatakana char &&
      !hiraganaScript.table.contains char && !isHebrewLetter char &&
      !unspacedLetterTable.contains char)

/-- Whether a character is of the kind. -/
def contains : WordBreak → Char → Bool
  | carriageReturn, char => char == '\r'
  | lineFeed, char => char == '\n'
  | newline, char =>
    char == '\x0b' || char == '\x0c' || char == '\u0085' || char == '\u2028' || char == '\u2029'
  | extend, char => isExtend char
  | joiner, char => char == '\u200d'
  | format, char =>
    GeneralCategory.format.contains char && char != '\u200b' && char != '\u200d' &&
      !isGraphemeExtend char && !prependedConcatenationMarkTable.contains char
  | regionalIndicator, char => regionalIndicatorTable.contains char
  | katakana, char => isKatakana char
  | hebrewLetter, char => isHebrewLetter char
  | letter, char => isLetter char
  | singleQuote, char => char == '\''
  | doubleQuote, char => char == '"'
  | middleOfEither, char => middleOfEitherTable.contains char
  | middleOfWord, char => middleOfWordTable.contains char
  | middleOfNumber, char => middleOfNumberTable.contains char
  | numeric, char =>
    GeneralCategory.decimalNumber.contains char || digitLikeTable.contains char
  | connector, char =>
    GeneralCategory.connectorPunctuation.contains char || char == '\u202f'
  | blank, char =>
    GeneralCategory.spaceSeparator.contains char && char != '\u00a0' && char != '\u2007' &&
      char != '\u202f'

/-- Names by which patterns refer to the kind. -/
def names : WordBreak → List String
  | carriageReturn => ["cr"]
  | lineFeed => ["lf"]
  | newline => ["newline", "nl"]
  | extend => ["extend"]
  | joiner => ["zwj"]
  | format => ["fo", "format"]
  | regionalIndicator => ["regionalindicator", "ri"]
  | katakana => ["ka", "katakana"]
  | hebrewLetter => ["hebrewletter", "hl"]
  | letter => ["aletter", "le"]
  | singleQuote => ["singlequote", "sq"]
  | doubleQuote => ["doublequote", "dq"]
  | middleOfEither => ["mb", "midnumlet"]
  | middleOfWord => ["midletter", "ml"]
  | middleOfNumber => ["midnum", "mn"]
  | numeric => ["nu", "numeric"]
  | connector => ["ex", "extendnumlet"]
  | blank => ["wsegspace"]

def all : List WordBreak :=
  [.carriageReturn, .lineFeed, .newline, .extend, .joiner, .format, .regionalIndicator, .katakana,
   .hebrewLetter, .letter, .singleQuote, .doubleQuote, .middleOfEither, .middleOfWord,
   .middleOfNumber, .numeric, .connector, .blank]

end WordBreak

end RuleLexer.Unicode
