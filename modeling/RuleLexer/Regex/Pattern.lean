/-!
# Patterns

The written form of a regular expression, as a tree. A pattern still says how it was written: flags
are directives in the text, classes are named, and what a literal or an assertion means depends on
the flags in force where it stands.
-/

namespace RuleLexer.Regex

/-- Why a text is no pattern. -/
inductive PatternError
  | lookaround
  | groupUnclosed
  | groupUnopened
  | groupNameUnclosed
  | groupNameEmpty
  | groupNameInvalid
  | groupNameDuplicate
  | flagsUnclosed
  | flagUnknown
  | flagDuplicate
  | flagNegationRepeated
  | flagNegationDangling
  | repetitionMissing
  | countUnclosed
  | countEmpty
  | countTooLarge
  | countDisordered
  | escapeUnfinished
  | escapeUnknown
  | backreference
  | codeEmpty
  | codeInvalidDigit
  | codeInvalid
  | boundaryUnknown
  | boundaryUnclosed
  | classUnclosed
  | rangeDisordered
  | rangeEndInvalid
  | classEscapeInvalid
  | propertyMissing
  | propertyUnknown
  | unicodeRequired
  | partialCharacter
  | nestingTooDeep
  deriving DecidableEq, Repr

/-- A switch that changes what patterns mean. -/
inductive Flag
  | caseInsensitive
  | multiLine
  | dotMatchesNewline
  | swapGreed
  | unicode
  | crlf
  | extended
  deriving DecidableEq, Repr

/-- Flags to switch on or off. -/
abbrev FlagChanges := List (Flag × Bool)

/-- What a list of flag changes says about a flag. -/
def FlagChanges.get? (changes : FlagChanges) (flag : Flag) : Option Bool :=
  changes.lookup flag

/-- A character that stands for itself. -/
structure Literal where
  char : Char
  /-- Whether it is written as two hexadecimal digits, which outside Unicode mode name a byte. -/
  isByte : Bool := false
  deriving DecidableEq, Repr

/-- Classes with a letter for a name. -/
inductive PerlClass
  | digit
  | space
  | word
  deriving DecidableEq, Repr

/-- Classes of ASCII characters with a bracketed name. -/
inductive AsciiClass
  | alnum
  | alpha
  | ascii
  | blank
  | cntrl
  | digit
  | graph
  | lower
  | print
  | punct
  | space
  | upper
  | word
  | xdigit
  deriving DecidableEq, Repr

/-- A reference to a property of characters. -/
inductive PropertyName
  | name (name : String)
  | value (name value : String)
  deriving DecidableEq, Repr

/-- Set operations between the parts of a class. -/
inductive SetOp
  | intersection
  | difference
  | symmetricDifference
  deriving DecidableEq, Repr

/-- The inside of a bracketed class. -/
inductive ClassSet
  | empty
  | literal (literal : Literal)
  | range (first last : Literal)
  | perl (kind : PerlClass) (negated : Bool)
  | ascii (kind : AsciiClass) (negated : Bool)
  | property (name : PropertyName) (negated : Bool)
  /-- Items side by side; longer runs lean to the left. -/
  | union (items item : ClassSet)
  | bracketed (negated : Bool) (set : ClassSet)
  | operation (op : SetOp) (left right : ClassSet)
  deriving DecidableEq, Repr

/-- Assertions as they are written. -/
inductive AssertionName
  | lineStart
  | lineEnd
  | textStart
  | textEnd
  | wordBoundary
  | notWordBoundary
  | wordStart
  | wordEnd
  | wordStartHalf
  | wordEndHalf
  deriving DecidableEq, Repr

/-- A written regular expression. -/
inductive Pattern
  | empty
  | flags (changes : FlagChanges)
  | literal (literal : Literal)
  | dot
  | assertion (name : AssertionName)
  | perl (kind : PerlClass) (negated : Bool)
  | property (name : PropertyName) (negated : Bool)
  | bracketed (negated : Bool) (set : ClassSet)
  /-- A repetition; without `most` it is unbounded. -/
  | repetition (least : Nat) (most : Option Nat) (greedy : Bool) (body : Pattern)
  | capture (index : Nat) (body : Pattern)
  | within (changes : FlagChanges) (body : Pattern)
  /-- Parts in sequence; longer runs lean to the left. -/
  | concat (parts part : Pattern)
  /-- Alternatives; longer runs lean to the left. -/
  | alternation (alternatives alternative : Pattern)
  deriving DecidableEq, Repr

namespace ClassSet

/-- How deeply the parts of a class nest; a run of items counts once. -/
def depth (inRun : Bool) : ClassSet → Nat
  | empty | literal _ | range _ _ | perl _ _ | ascii _ _ | property _ _ => 0
  | union items item =>
    let inner := max (items.depth true) (item.depth false)
    if inRun then inner else inner + 1
  | bracketed _ set => set.depth false + 1
  | operation _ left right => max (left.depth false) (right.depth false) + 1

/-- The items of a class side by side. -/
def ofItems : List ClassSet → ClassSet
  | [] => empty
  | first :: rest => rest.foldl union first

end ClassSet

namespace Pattern

/-- The kind of run that a part may continue. -/
inductive RunKind
  | concat
  | alternation
  deriving DecidableEq, Repr

/-- How deeply the parts of a pattern nest; a run of parts or alternatives counts once. -/
def depth (run : Option RunKind) : Pattern → Nat
  | empty | flags _ | literal _ | dot | assertion _ | perl _ _ | property _ _ => 0
  | bracketed _ set => set.depth false + 1
  | repetition _ _ _ body | capture _ body | within _ body => body.depth none + 1
  | concat parts part =>
    let inner := max (parts.depth (some .concat)) (part.depth none)
    if run = some .concat then inner else inner + 1
  | alternation alternatives alternative =>
    let inner := max (alternatives.depth (some .alternation)) (alternative.depth none)
    if run = some .alternation then inner else inner + 1

/-- The greatest depth of nesting that a pattern may have. -/
def maxDepth : Nat := 250

/-- Parts in sequence. -/
def ofParts : List Pattern → Pattern
  | [] => empty
  | first :: rest => rest.foldl concat first

/-- Alternatives, of which there is at least one. -/
def ofAlternatives (first : Pattern) (rest : List Pattern) : Pattern :=
  rest.foldl alternation first

end Pattern

end RuleLexer.Regex
