import RuleLexer.Unicode.Property

/-!
# The latest version

Patterns mean the sets of version 16 of the standard, which the other modules hold. What is shown
to a reader, and how a reader may name a group, goes by version 17. It adds characters; the
properties that matter here are the same for all older ones.
-/

namespace RuleLexer.Unicode

namespace Latest

/-- The characters that version 17 adds. -/
def addedTable : Table :=
  [⟨0x88F, 0x88F, 1⟩, ⟨0xC5C, 0xC5C, 1⟩, ⟨0xCDC, 0xCDC, 1⟩, ⟨0x1ACF, 0x1ADD, 1⟩,
   ⟨0x1AE0, 0x1AEB, 1⟩, ⟨0x20C1, 0x20C1, 1⟩, ⟨0x2B96, 0x2B96, 1⟩, ⟨0xA7CE, 0xA7CF, 1⟩,
   ⟨0xA7D2, 0xA7D4, 2⟩, ⟨0xA7F1, 0xA7F1, 1⟩, ⟨0xFBC3, 0xFBD2, 1⟩, ⟨0xFD90, 0xFD91, 1⟩,
   ⟨0xFDC8, 0xFDCE, 1⟩, ⟨0x10940, 0x10959, 1⟩, ⟨0x10EC5, 0x10EC7, 1⟩, ⟨0x10ED0, 0x10ED8, 1⟩,
   ⟨0x10EFA, 0x10EFB, 1⟩, ⟨0x11B60, 0x11B67, 1⟩, ⟨0x11DB0, 0x11DDB, 1⟩, ⟨0x11DE0, 0x11DE9, 1⟩,
   ⟨0x16EA0, 0x16EB8, 1⟩, ⟨0x16EBB, 0x16ED3, 1⟩, ⟨0x16FF2, 0x16FF6, 1⟩, ⟨0x187F8, 0x187FF, 1⟩,
   ⟨0x18D09, 0x18D1E, 1⟩, ⟨0x18D80, 0x18DF2, 1⟩, ⟨0x1CCFA, 0x1CCFC, 1⟩, ⟨0x1CEBA, 0x1CED0, 1⟩,
   ⟨0x1CEE0, 0x1CEF0, 1⟩, ⟨0x1E6C0, 0x1E6DE, 1⟩, ⟨0x1E6E0, 0x1E6F5, 1⟩, ⟨0x1E6FE, 0x1E6FF, 1⟩,
   ⟨0x1F6D8, 0x1F6D8, 1⟩, ⟨0x1F777, 0x1F77A, 1⟩, ⟨0x1F8D0, 0x1F8D8, 1⟩, ⟨0x1FA54, 0x1FA57, 1⟩,
   ⟨0x1FA8A, 0x1FA8A, 1⟩, ⟨0x1FA8E, 0x1FA8E, 1⟩, ⟨0x1FAC8, 0x1FAC8, 1⟩, ⟨0x1FACD, 0x1FACD, 1⟩,
   ⟨0x1FAEA, 0x1FAEA, 1⟩, ⟨0x1FAEF, 0x1FAEF, 1⟩, ⟨0x1FBFA, 0x1FBFA, 1⟩, ⟨0x2B73A, 0x2B73F, 1⟩,
   ⟨0x2CEA2, 0x2CEAD, 1⟩, ⟨0x323B0, 0x33479, 1⟩]

/-- Those of them that are alphabetic. -/
def addedAlphabeticTable : Table :=
  [⟨0x88F, 0x88F, 1⟩, ⟨0xC5C, 0xC5C, 1⟩, ⟨0xCDC, 0xCDC, 1⟩, ⟨0xA7CE, 0xA7CF, 1⟩,
   ⟨0xA7D2, 0xA7D4, 2⟩, ⟨0xA7F1, 0xA7F1, 1⟩, ⟨0x10940, 0x10959, 1⟩, ⟨0x10EC5, 0x10EC7, 1⟩,
   ⟨0x10EFA, 0x10EFB, 1⟩, ⟨0x11B60, 0x11B67, 1⟩, ⟨0x11DB0, 0x11DDB, 1⟩, ⟨0x16EA0, 0x16EB8, 1⟩,
   ⟨0x16EBB, 0x16ED3, 1⟩, ⟨0x16FF2, 0x16FF6, 1⟩, ⟨0x187F8, 0x187FF, 1⟩, ⟨0x18D09, 0x18D1E, 1⟩,
   ⟨0x18D80, 0x18DF2, 1⟩, ⟨0x1E6C0, 0x1E6DE, 1⟩, ⟨0x1E6E0, 0x1E6F5, 1⟩, ⟨0x1E6FE, 0x1E6FF, 1⟩,
   ⟨0x2B73A, 0x2B73F, 1⟩, ⟨0x2CEA2, 0x2CEAD, 1⟩, ⟨0x323B0, 0x33479, 1⟩]

/-- Those of them that are numbers. -/
def addedNumberTable : Table :=
  [⟨0x11DE0, 0x11DE9, 1⟩, ⟨0x16FF4, 0x16FF6, 1⟩]

/-- Those of them that attach to the character before them. -/
def addedGraphemeExtendTable : Table :=
  [⟨0x1ACF, 0x1ADD, 1⟩, ⟨0x1AE0, 0x1AEB, 1⟩, ⟨0x10EFA, 0x10EFB, 1⟩, ⟨0x11B60, 0x11B60, 1⟩,
   ⟨0x11B62, 0x11B64, 1⟩, ⟨0x11B66, 0x11B66, 1⟩, ⟨0x1E6E3, 0x1E6E3, 1⟩, ⟨0x1E6E6, 0x1E6E6, 1⟩,
   ⟨0x1E6EE, 0x1E6EF, 1⟩, ⟨0x1E6F5, 0x1E6F5, 1⟩]

/-- Alphabetic characters. -/
def isAlphabetic (char : Char) : Bool :=
  Unicode.isAlphabetic char || addedAlphabeticTable.contains char

/-- Alphabetic characters and numbers. -/
def isAlphanumeric (char : Char) : Bool :=
  isAlphabetic char || isNumber char || addedNumberTable.contains char

/-- Characters that attach to the character before them. -/
def isGraphemeExtend (char : Char) : Bool :=
  Unicode.isGraphemeExtend char || addedGraphemeExtendTable.contains char

/-- Characters that are written with ink, and the ordinary space. -/
def isPrintable (char : Char) : Bool :=
  char == ' ' || isLetter char || isMark char || isNumber char || isPunctuation char ||
    isSymbol char || addedTable.contains char

end Latest

end RuleLexer.Unicode
