import RuleLexer.Unicode.CaseChange
import RuleLexer.Unicode.Emoji
import RuleLexer.Unicode.Identifier
import RuleLexer.Unicode.WordBreak

/-!
# Binary properties

The properties that a pattern may name without a value, and that are neither general categories nor
scripts.
-/

namespace RuleLexer.Unicode

/-- Characters that are passed over where the case of a character depends on what is near it. -/
def isCaseIgnorable (char : Char) : Bool :=
  GeneralCategory.nonspacingMark.contains char || GeneralCategory.enclosingMark.contains char ||
    GeneralCategory.format.contains char || GeneralCategory.modifierLetter.contains char ||
    GeneralCategory.modifierSymbol.contains char || WordBreak.singleQuote.contains char ||
    WordBreak.middleOfWord.contains char || WordBreak.middleOfEither.contains char

/-- A property that a character has or has not. -/
inductive BinaryProperty
  | alphabetic
  | lowercase
  | uppercase
  | cased
  | caseIgnorable
  | changesWhenLowercased
  | changesWhenUppercased
  | changesWhenTitlecased
  | changesWhenFolded
  | changesWhenCasemapped
  | softDotted
  | whiteSpace
  | joinControl
  | bidiControl
  | bidiMirrored
  | dash
  | hyphen
  | quotationMark
  | terminalPunctuation
  | sentenceTerminal
  | diacritic
  | extender
  | math
  | hexDigit
  | asciiHexDigit
  | ideographic
  | unifiedIdeograph
  | radical
  | idsUnaryOperator
  | idsBinaryOperator
  | idsTrinaryOperator
  | graphemeBase
  | graphemeExtend
  | graphemeLink
  | modifierCombiningMark
  | prependedConcatenationMark
  | regionalIndicator
  | logicalOrderException
  | variationSelector
  | defaultIgnorable
  | deprecated
  | noncharacter
  | patternSyntax
  | patternWhiteSpace
  | idStart
  | idContinue
  | xidStart
  | xidContinue
  | idCompatMathStart
  | idCompatMathContinue
  | emoji
  | emojiPresentation
  | emojiModifier
  | emojiModifierBase
  | emojiComponent
  | extendedPictographic
  | otherAlphabetic
  | otherLowercase
  | otherUppercase
  | otherMath
  | otherGraphemeExtend
  | otherDefaultIgnorable
  | otherIdStart
  | otherIdContinue
  deriving DecidableEq, Repr

namespace BinaryProperty

/-- Whether a character has the property. -/
def contains : BinaryProperty → Char → Bool
  | alphabetic, char => isAlphabetic char
  | lowercase, char => isLowercase char
  | uppercase, char => isUppercase char
  | cased, char => isCased char
  | caseIgnorable, char => isCaseIgnorable char
  | changesWhenLowercased, char => Unicode.changesWhenLowercased char
  | changesWhenUppercased, char => Unicode.changesWhenUppercased char
  | changesWhenTitlecased, char => Unicode.changesWhenTitlecased char
  | changesWhenFolded, char => Unicode.changesWhenFolded char
  | changesWhenCasemapped, char => Unicode.changesWhenCasemapped char
  | softDotted, char => softDottedTable.contains char
  | whiteSpace, char => isWhiteSpace char
  | joinControl, char => isJoinControl char
  | bidiControl, char => bidiControlTable.contains char
  | bidiMirrored, char => bidiMirroredTable.contains char
  | dash, char => dashTable.contains char
  | hyphen, char => hyphenTable.contains char
  | quotationMark, char => quotationMarkTable.contains char
  | terminalPunctuation, char => terminalPunctuationTable.contains char
  | sentenceTerminal, char => sentenceTerminalTable.contains char
  | diacritic, char => diacriticTable.contains char
  | extender, char => extenderTable.contains char
  | math, char => isMath char
  | hexDigit, char => hexDigitTable.contains char
  | asciiHexDigit, char => char.toNat < 128 && hexDigitTable.contains char
  | ideographic, char => ideographicTable.contains char
  | unifiedIdeograph, char => unifiedIdeographTable.contains char
  | radical, char => radicalTable.contains char
  | idsUnaryOperator, char => idsUnaryOperatorTable.contains char
  | idsBinaryOperator, char => idsBinaryOperatorTable.contains char
  | idsTrinaryOperator, char => idsTrinaryOperatorTable.contains char
  | graphemeBase, char => isGraphemeBase char
  | graphemeExtend, char => isGraphemeExtend char
  | graphemeLink, char => graphemeLinkTable.contains char
  | modifierCombiningMark, char => modifierCombiningMarkTable.contains char
  | prependedConcatenationMark, char => prependedConcatenationMarkTable.contains char
  | regionalIndicator, char => regionalIndicatorTable.contains char
  | logicalOrderException, char => logicalOrderExceptionTable.contains char
  | variationSelector, char => variationSelectorTable.contains char
  | defaultIgnorable, char => isDefaultIgnorable char
  | deprecated, char => deprecatedTable.contains char
  | noncharacter, char => isNoncharacter char
  | patternSyntax, char => patternSyntaxTable.contains char
  | patternWhiteSpace, char => patternWhiteSpaceTable.contains char
  | idStart, char => isIdStart char
  | idContinue, char => isIdContinue char
  | xidStart, char => isXidStart char
  | xidContinue, char => isXidContinue char
  | idCompatMathStart, char => idCompatMathStartTable.contains char
  | idCompatMathContinue, char => idCompatMathContinueTable.contains char
  | emoji, char => emojiTable.contains char
  | emojiPresentation, char => emojiPresentationTable.contains char
  | emojiModifier, char => emojiModifierTable.contains char
  | emojiModifierBase, char => emojiModifierBaseTable.contains char
  | emojiComponent, char => emojiComponentTable.contains char
  | extendedPictographic, char => extendedPictographicTable.contains char
  | otherAlphabetic, char => otherAlphabeticTable.contains char
  | otherLowercase, char => otherLowercaseTable.contains char
  | otherUppercase, char => otherUppercaseTable.contains char
  | otherMath, char => otherMathTable.contains char
  | otherGraphemeExtend, char => otherGraphemeExtendTable.contains char
  | otherDefaultIgnorable, char => otherDefaultIgnorableTable.contains char
  | otherIdStart, char => otherIdStartTable.contains char
  | otherIdContinue, char => otherIdContinueTable.contains char

/-- Names by which patterns refer to the property. -/
def names : BinaryProperty → List String
  | alphabetic => ["alpha", "alphabetic"]
  | lowercase => ["lower", "lowercase"]
  | uppercase => ["upper", "uppercase"]
  | cased => ["cased"]
  | caseIgnorable => ["ci", "caseignorable"]
  | changesWhenLowercased => ["cwl", "changeswhenlowercased"]
  | changesWhenUppercased => ["cwu", "changeswhenuppercased"]
  | changesWhenTitlecased => ["cwt", "changeswhentitlecased"]
  | changesWhenFolded => ["cwcf", "changeswhencasefolded"]
  | changesWhenCasemapped => ["cwcm", "changeswhencasemapped"]
  | softDotted => ["sd", "softdotted"]
  | whiteSpace => ["space", "wspace", "whitespace"]
  | joinControl => ["joinc", "joincontrol"]
  | bidiControl => ["bidic", "bidicontrol"]
  | bidiMirrored => ["bidim", "bidimirrored"]
  | dash => ["dash"]
  | hyphen => ["hyphen"]
  | quotationMark => ["qmark", "quotationmark"]
  | terminalPunctuation => ["term", "terminalpunctuation"]
  | sentenceTerminal => ["sterm", "sentenceterminal"]
  | diacritic => ["dia", "diacritic"]
  | extender => ["ext", "extender"]
  | math => ["math"]
  | hexDigit => ["hex", "hexdigit"]
  | asciiHexDigit => ["ahex", "asciihexdigit"]
  | ideographic => ["ideo", "ideographic"]
  | unifiedIdeograph => ["uideo", "unifiedideograph"]
  | radical => ["radical"]
  | idsUnaryOperator => ["idsu", "idsunaryoperator"]
  | idsBinaryOperator => ["idsb", "idsbinaryoperator"]
  | idsTrinaryOperator => ["idst", "idstrinaryoperator"]
  | graphemeBase => ["grbase", "graphemebase"]
  | graphemeExtend => ["grext", "graphemeextend"]
  | graphemeLink => ["grlink", "graphemelink"]
  | modifierCombiningMark => ["mcm", "modifiercombiningmark"]
  | prependedConcatenationMark => ["pcm", "prependedconcatenationmark"]
  | regionalIndicator => ["ri", "regionalindicator"]
  | logicalOrderException => ["loe", "logicalorderexception"]
  | variationSelector => ["vs", "variationselector"]
  | defaultIgnorable => ["di", "defaultignorablecodepoint"]
  | deprecated => ["dep", "deprecated"]
  | noncharacter => ["nchar", "noncharactercodepoint"]
  | patternSyntax => ["patsyn", "patternsyntax"]
  | patternWhiteSpace => ["patws", "patternwhitespace"]
  | idStart => ["ids", "idstart"]
  | idContinue => ["idc", "idcontinue"]
  | xidStart => ["xids", "xidstart"]
  | xidContinue => ["xidc", "xidcontinue"]
  | idCompatMathStart => ["idcompatmathstart"]
  | idCompatMathContinue => ["idcompatmathcontinue"]
  | emoji => ["emoji"]
  | emojiPresentation => ["epres", "emojipresentation"]
  | emojiModifier => ["emod", "emojimodifier"]
  | emojiModifierBase => ["ebase", "emojimodifierbase"]
  | emojiComponent => ["ecomp", "emojicomponent"]
  | extendedPictographic => ["extpict", "extendedpictographic"]
  | otherAlphabetic => ["oalpha", "otheralphabetic"]
  | otherLowercase => ["olower", "otherlowercase"]
  | otherUppercase => ["oupper", "otheruppercase"]
  | otherMath => ["omath", "othermath"]
  | otherGraphemeExtend => ["ogrext", "othergraphemeextend"]
  | otherDefaultIgnorable => ["odi", "otherdefaultignorablecodepoint"]
  | otherIdStart => ["oids", "otheridstart"]
  | otherIdContinue => ["oidc", "otheridcontinue"]

def all : List BinaryProperty :=
  [.alphabetic, .lowercase, .uppercase, .cased, .caseIgnorable, .changesWhenLowercased,
   .changesWhenUppercased, .changesWhenTitlecased, .changesWhenFolded, .changesWhenCasemapped,
   .softDotted, .whiteSpace, .joinControl, .bidiControl, .bidiMirrored, .dash, .hyphen,
   .quotationMark, .terminalPunctuation, .sentenceTerminal, .diacritic, .extender, .math, .hexDigit,
   .asciiHexDigit, .ideographic, .unifiedIdeograph, .radical, .idsUnaryOperator, .idsBinaryOperator,
   .idsTrinaryOperator, .graphemeBase, .graphemeExtend, .graphemeLink, .modifierCombiningMark,
   .prependedConcatenationMark, .regionalIndicator, .logicalOrderException, .variationSelector,
   .defaultIgnorable, .deprecated, .noncharacter, .patternSyntax, .patternWhiteSpace, .idStart,
   .idContinue, .xidStart, .xidContinue, .idCompatMathStart, .idCompatMathContinue, .emoji,
   .emojiPresentation, .emojiModifier, .emojiModifierBase, .emojiComponent, .extendedPictographic,
   .otherAlphabetic, .otherLowercase, .otherUppercase, .otherMath, .otherGraphemeExtend,
   .otherDefaultIgnorable, .otherIdStart, .otherIdContinue]

end BinaryProperty

end RuleLexer.Unicode
