import RuleLexer.Unicode.Age
import RuleLexer.Unicode.BinaryProperty
import RuleLexer.Unicode.GraphemeBreak
import RuleLexer.Unicode.ScriptExtension
import RuleLexer.Unicode.SentenceBreak

/-!
# Properties by name

Patterns refer to sets of characters by the names of the standard: a binary property, a general
category or a script by its name alone, and any property that has values by its name and a value.
Names are compared loosely, that is without regard to case, blanks, hyphens, underscores and a
leading "is".
-/

namespace RuleLexer.Unicode

/-- A named set of characters. -/
inductive Property
  | any
  | ascii
  | assigned
  | unassigned
  | category (category : GeneralCategory)
  | letter
  | casedLetter
  | mark
  | number
  | punctuation
  | symbol
  | separator
  | other
  | binary (property : BinaryProperty)
  | wordChar
  | script (script : Script)
  | scriptExtension (script : Script)
  | age (index : Nat)
  | graphemeBreak (kind : GraphemeBreak)
  | wordBreak (kind : WordBreak)
  | sentenceBreak (kind : SentenceBreak)
  deriving DecidableEq, Repr

namespace Property

/-- Whether a character has the property. -/
def contains : Property → Char → Bool
  | .any, _ => true
  | .ascii, char => char.toNat < 128
  | .assigned, char => isAssigned char
  | .unassigned, char => !isAssigned char
  | .category found, char => found.contains char
  | .letter, char => isLetter char
  | .casedLetter, char =>
    GeneralCategory.uppercaseLetter.contains char ||
      GeneralCategory.lowercaseLetter.contains char || GeneralCategory.titlecaseLetter.contains char
  | .mark, char => isMark char
  | .number, char => isNumber char
  | .punctuation, char => isPunctuation char
  | .symbol, char => isSymbol char
  | .separator, char => isSeparator char
  | .other, char =>
    GeneralCategory.control.contains char || GeneralCategory.format.contains char ||
      GeneralCategory.privateUse.contains char || !isAssigned char
  | .binary property, char => property.contains char
  | .wordChar, char => isWordChar char
  | .script found, char => found.table.contains char
  | .scriptExtension found, char => found.uses char
  | .age index, char => isInVersion index char
  | .graphemeBreak kind, char => kind.contains char
  | .wordBreak kind, char => kind.contains char
  | .sentenceBreak kind, char => kind.contains char

/-- The form of a name under loose comparison. -/
def looseName (name : String) : String :=
  let chars := name.toList
  let afterIs := match chars with
    | 'i' :: 's' :: rest | 'I' :: 's' :: rest | 'i' :: 'S' :: rest | 'I' :: 'S' :: rest => rest
    | _ => chars
  let kept := (afterIs.filter fun char => !" _-".toList.contains char && char.toNat < 128).map
    Char.toLower
  if kept = ['c'] && afterIs.length < chars.length then "isc" else String.ofList kept

/-- General categories and their unions, by their loose names. -/
def categoryNames : List (String × Property) :=
  [("any", any), ("assigned", assigned), ("ascii", ascii),
   ("l", letter), ("letter", letter), ("lc", casedLetter), ("casedletter", casedLetter),
   ("lu", category .uppercaseLetter), ("uppercaseletter", category .uppercaseLetter),
   ("ll", category .lowercaseLetter), ("lowercaseletter", category .lowercaseLetter),
   ("lt", category .titlecaseLetter), ("titlecaseletter", category .titlecaseLetter),
   ("lm", category .modifierLetter), ("modifierletter", category .modifierLetter),
   ("lo", category .otherLetter), ("otherletter", category .otherLetter),
   ("m", mark), ("mark", mark), ("combiningmark", mark),
   ("mn", category .nonspacingMark), ("nonspacingmark", category .nonspacingMark),
   ("mc", category .spacingMark), ("spacingmark", category .spacingMark),
   ("me", category .enclosingMark), ("enclosingmark", category .enclosingMark),
   ("n", number), ("number", number),
   ("nd", category .decimalNumber), ("decimalnumber", category .decimalNumber),
   ("digit", category .decimalNumber),
   ("nl", category .letterNumber), ("letternumber", category .letterNumber),
   ("no", category .otherNumber), ("othernumber", category .otherNumber),
   ("p", punctuation), ("punctuation", punctuation), ("punct", punctuation),
   ("pc", category .connectorPunctuation),
   ("connectorpunctuation", category .connectorPunctuation),
   ("pd", category .dashPunctuation), ("dashpunctuation", category .dashPunctuation),
   ("ps", category .openPunctuation), ("openpunctuation", category .openPunctuation),
   ("pe", category .closePunctuation), ("closepunctuation", category .closePunctuation),
   ("pi", category .initialPunctuation), ("initialpunctuation", category .initialPunctuation),
   ("pf", category .finalPunctuation), ("finalpunctuation", category .finalPunctuation),
   ("po", category .otherPunctuation), ("otherpunctuation", category .otherPunctuation),
   ("s", symbol), ("symbol", symbol),
   ("sm", category .mathSymbol), ("mathsymbol", category .mathSymbol),
   ("sc", category .currencySymbol), ("currencysymbol", category .currencySymbol),
   ("sk", category .modifierSymbol), ("modifiersymbol", category .modifierSymbol),
   ("so", category .otherSymbol), ("othersymbol", category .otherSymbol),
   ("z", separator), ("separator", separator),
   ("zs", category .spaceSeparator), ("spaceseparator", category .spaceSeparator),
   ("zl", category .lineSeparator), ("lineseparator", category .lineSeparator),
   ("zp", category .paragraphSeparator), ("paragraphseparator", category .paragraphSeparator),
   ("c", other), ("other", other),
   ("cc", category .control), ("control", category .control), ("cntrl", category .control),
   ("cf", category .format), ("format", category .format),
   ("cn", unassigned), ("unassigned", unassigned),
   ("co", category .privateUse), ("privateuse", category .privateUse)]

def scriptNamed? (name : String) : Option Script :=
  scripts.find? (·.names.contains name)

/-- The binary property of a loose name. -/
def binaryNamed? (name : String) : Option BinaryProperty :=
  BinaryProperty.all.find? (·.names.contains name)

/-- The property that a single name stands for: a binary property, else a general category, else a
script. -/
def named? (name : String) : Option Property :=
  let loose := looseName name
  ((binaryNamed? loose).map binary).orElse fun _ =>
    (categoryNames.lookup loose).orElse fun _ => (scriptNamed? loose).map script

/-- The property that a name and a value stand for. -/
def valued? (name value : String) : Option Property :=
  let loose := looseName value
  match looseName name with
  | "generalcategory" | "gc" => categoryNames.lookup loose
  | "script" | "sc" => (scriptNamed? loose).map script
  | "scriptextensions" | "scx" => (scriptNamed? loose).map scriptExtension
  | "age" => (versions.findIdx? (·.names.contains loose)).map age
  | "graphemeclusterbreak" | "gcb" =>
    (GraphemeBreak.all.find? (·.names.contains loose)).map graphemeBreak
  | "wordbreak" | "wb" => (WordBreak.all.find? (·.names.contains loose)).map wordBreak
  | "sentencebreak" | "sb" => (SentenceBreak.all.find? (·.names.contains loose)).map sentenceBreak
  | _ => none

end Property

end RuleLexer.Unicode
