import RuleLexer.Unicode.WordBreak

/-!
# Division into sentences

Where a sentence of a text ends is decided by the kinds of the characters on both sides.
-/

namespace RuleLexer.Unicode

/-- Full stops, which may also end an abbreviation. -/
def fullStopTable : Table :=
  [⟨0x2E, 0x2E, 1⟩, ⟨0x2024, 0x2024, 1⟩, ⟨0xFE52, 0xFE52, 1⟩, ⟨0xFF0E, 0xFF0E, 1⟩]

/-- Punctuation after which a sentence goes on. -/
def sentenceContinueTable : Table :=
  [⟨0x2C, 0x2D, 1⟩, ⟨0x3A, 0x3B, 1⟩, ⟨0x37E, 0x37E, 1⟩, ⟨0x55D, 0x55D, 1⟩, ⟨0x60C, 0x60D, 1⟩,
   ⟨0x7F8, 0x7F8, 1⟩, ⟨0x1802, 0x1802, 1⟩, ⟨0x1808, 0x1808, 1⟩, ⟨0x2013, 0x2014, 1⟩,
   ⟨0x3001, 0x3001, 1⟩, ⟨0xFE10, 0xFE11, 1⟩, ⟨0xFE13, 0xFE14, 1⟩, ⟨0xFE31, 0xFE32, 1⟩,
   ⟨0xFE50, 0xFE51, 1⟩, ⟨0xFE54, 0xFE55, 1⟩, ⟨0xFE58, 0xFE58, 1⟩, ⟨0xFE63, 0xFE63, 1⟩,
   ⟨0xFF0C, 0xFF0D, 1⟩, ⟨0xFF1A, 0xFF1B, 1⟩, ⟨0xFF64, 0xFF64, 1⟩]

/-- Quotation marks and ornaments that act like brackets. -/
def closingLikeTable : Table :=
  [⟨0x22, 0x22, 1⟩, ⟨0x27, 0x27, 1⟩, ⟨0x275B, 0x2760, 1⟩, ⟨0x2E00, 0x2E01, 1⟩, ⟨0x2E06, 0x2E08, 1⟩,
   ⟨0x2E0B, 0x2E0B, 1⟩, ⟨0x1F676, 0x1F678, 1⟩]

/-- How a character takes part in the division of a text into sentences. -/
inductive SentenceBreak
  | carriageReturn
  | lineFeed
  | separator
  | extend
  | format
  | blank
  | lower
  | upper
  | letter
  | numeric
  | fullStop
  | continuation
  | terminator
  | closing
  deriving DecidableEq, Repr

namespace SentenceBreak

/-- Characters that extend the one before them. -/
def isExtend (char : Char) : Bool :=
  isGraphemeExtend char || GeneralCategory.spacingMark.contains char || char == '\u200d'

/-- The letters of Georgian that have capital forms, and these. Georgian does not begin sentences
with capital letters. -/
def isGeorgian (char : Char) : Bool :=
  (0x10D0 ≤ char.toNat && char.toNat ≤ 0x10FF && !GeneralCategory.modifierLetter.contains char) ||
    (0x1C90 ≤ char.toNat && char.toNat ≤ 0x1CBF)

/-- Small letters. -/
def isLower (char : Char) : Bool :=
  isLowercase char && !isGraphemeExtend char && !isGeorgian char

/-- Capital letters. -/
def isUpper (char : Char) : Bool :=
  (isUppercase char || GeneralCategory.titlecaseLetter.contains char) && !isGeorgian char

/-- Line ends other than carriage return and line feed. -/
def isSeparator (char : Char) : Bool :=
  char == '\u0085' || char == '\u2028' || char == '\u2029'

/-- Digits and signs for numbers. -/
def isNumeric (char : Char) : Bool :=
  GeneralCategory.decimalNumber.contains char || digitLikeTable.contains char || char == '\u066c'

/-- Whether a character is of the kind. -/
def contains : SentenceBreak → Char → Bool
  | carriageReturn, char => char == '\r'
  | lineFeed, char => char == '\n'
  | separator, char => isSeparator char
  | extend, char => isExtend char
  | format, char => GeneralCategory.format.contains char && !isExtend char && !isNumeric char
  | blank, char => isWhiteSpace char && char != '\r' && char != '\n' && !isSeparator char
  | lower, char => isLower char
  | upper, char => isUpper char
  | letter, char =>
    (isAlphabetic char || char == '\u05f3') && !isExtend char && !isLower char && !isUpper char
  | numeric, char => isNumeric char
  | fullStop, char => fullStopTable.contains char
  | continuation, char => sentenceContinueTable.contains char
  | terminator, char => sentenceTerminalTable.contains char && !fullStopTable.contains char
  | closing, char =>
    GeneralCategory.openPunctuation.contains char ||
      GeneralCategory.closePunctuation.contains char ||
      GeneralCategory.initialPunctuation.contains char ||
      GeneralCategory.finalPunctuation.contains char || closingLikeTable.contains char

/-- Names by which patterns refer to the kind. -/
def names : SentenceBreak → List String
  | carriageReturn => ["cr"]
  | lineFeed => ["lf"]
  | separator => ["se", "sep"]
  | extend => ["ex", "extend"]
  | format => ["fo", "format"]
  | blank => ["sp"]
  | lower => ["lo", "lower"]
  | upper => ["up", "upper"]
  | letter => ["le", "oletter"]
  | numeric => ["nu", "numeric"]
  | fullStop => ["at", "aterm"]
  | continuation => ["sc", "scontinue"]
  | terminator => ["st", "sterm"]
  | closing => ["cl", "close"]

def all : List SentenceBreak :=
  [.carriageReturn, .lineFeed, .separator, .extend, .format, .blank, .lower, .upper, .letter,
   .numeric, .fullStop, .continuation, .terminator, .closing]

end SentenceBreak

end RuleLexer.Unicode
