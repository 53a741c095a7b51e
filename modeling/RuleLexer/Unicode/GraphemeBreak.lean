import RuleLexer.Unicode.Emoji
import RuleLexer.Unicode.Property

/-!
# Division into graphemes

A grapheme is what a reader takes for one character. Where one ends is decided by the kinds of the
characters on both sides.
-/

namespace RuleLexer.Unicode

/-- Leading consonants of Hangul. -/
def leadingConsonantTable : Table :=
  [⟨0x1100, 0x115F, 1⟩, ⟨0xA960, 0xA97C, 1⟩]

/-- Vowels of Hangul, and signs that act like them. -/
def hangulVowelTable : Table :=
  [⟨0x1160, 0x11A7, 1⟩, ⟨0xD7B0, 0xD7C6, 1⟩, ⟨0x16D63, 0x16D63, 1⟩, ⟨0x16D67, 0x16D6A, 1⟩]

/-- Trailing consonants of Hangul. -/
def trailingConsonantTable : Table :=
  [⟨0x11A8, 0x11FF, 1⟩, ⟨0xD7CB, 0xD7FB, 1⟩]

/-- Letters and signs that are written before the consonant after them. -/
def prependedLetterTable : Table :=
  [⟨0xD4E, 0xD4E, 1⟩, ⟨0x111C2, 0x111C3, 1⟩, ⟨0x113D1, 0x113D1, 1⟩, ⟨0x1193F, 0x11941, 2⟩,
   ⟨0x11A3A, 0x11A3A, 1⟩, ⟨0x11A84, 0x11A89, 1⟩, ⟨0x11D46, 0x11D46, 1⟩, ⟨0x11F02, 0x11F02, 1⟩]

/-- Spacing marks that do not extend the grapheme before them. -/
def freestandingMarkTable : Table :=
  [⟨0x102B, 0x102C, 1⟩, ⟨0x1038, 0x1038, 1⟩, ⟨0x1062, 0x1064, 1⟩, ⟨0x1067, 0x106D, 1⟩,
   ⟨0x1083, 0x1083, 1⟩, ⟨0x1087, 0x108C, 1⟩, ⟨0x108F, 0x108F, 1⟩, ⟨0x109A, 0x109C, 1⟩,
   ⟨0x1A61, 0x1A61, 1⟩, ⟨0x1A63, 0x1A64, 1⟩, ⟨0xAA7B, 0xAA7D, 2⟩, ⟨0x11720, 0x11721, 1⟩]

/-- How a character takes part in the division of a text into graphemes. -/
inductive GraphemeBreak
  | carriageReturn
  | lineFeed
  | control
  | extend
  | joiner
  | regionalIndicator
  | prepend
  | spacingMark
  | leadingConsonant
  | vowel
  | trailingConsonant
  | openSyllable
  | closedSyllable
  deriving DecidableEq, Repr

namespace GraphemeBreak

/-- Whether a code point is a syllable of Hangul. -/
def isSyllable (code : Nat) : Bool :=
  0xAC00 ≤ code && code ≤ 0xD7A3

/-- Whether a code point is a syllable of Hangul without a trailing consonant. There are 27 trailing
consonants, and the syllables that begin alike stand together. -/
def isOpenSyllable (code : Nat) : Bool :=
  isSyllable code && (code - 0xAC00) % 28 == 0

/-- Whether a character is of the kind. -/
def contains : GraphemeBreak → Char → Bool
  | carriageReturn, char => char == '\r'
  | lineFeed, char => char == '\n'
  | control, char =>
    isControlLike char && char != '\r' && char != '\n' && char != '\u200d' &&
      !isGraphemeExtend char && !prependedConcatenationMarkTable.contains char
  | extend, char => isGraphemeExtend char || emojiModifierTable.contains char
  | joiner, char => char == '\u200d'
  | regionalIndicator, char => regionalIndicatorTable.contains char
  | prepend, char =>
    prependedConcatenationMarkTable.contains char || prependedLetterTable.contains char
  | spacingMark, char =>
    (GeneralCategory.spacingMark.contains char && !isGraphemeExtend char &&
      !freestandingMarkTable.contains char) || char == '\u0e33' || char == '\u0eb3'
  | leadingConsonant, char => leadingConsonantTable.contains char
  | vowel, char => hangulVowelTable.contains char
  | trailingConsonant, char => trailingConsonantTable.contains char
  | openSyllable, char => isOpenSyllable char.toNat
  | closedSyllable, char => isSyllable char.toNat && !isOpenSyllable char.toNat

/-- Names by which patterns refer to the kind. -/
def names : GraphemeBreak → List String
  | carriageReturn => ["cr"]
  | lineFeed => ["lf"]
  | control => ["cn", "control"]
  | extend => ["ex", "extend"]
  | joiner => ["zwj"]
  | regionalIndicator => ["regionalindicator", "ri"]
  | prepend => ["pp", "prepend"]
  | spacingMark => ["sm", "spacingmark"]
  | leadingConsonant => ["l"]
  | vowel => ["v"]
  | trailingConsonant => ["t"]
  | openSyllable => ["lv"]
  | closedSyllable => ["lvt"]

def all : List GraphemeBreak :=
  [.carriageReturn, .lineFeed, .control, .extend, .joiner, .regionalIndicator, .prepend,
   .spacingMark, .leadingConsonant, .vowel, .trailingConsonant, .openSyllable, .closedSyllable]

end GraphemeBreak

end RuleLexer.Unicode
