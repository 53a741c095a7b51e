import RuleLexer.Category
import RuleLexer.Glob
import RuleLexer.OrderedMap

/-!
# Lexer definitions

A definition is the uncompiled form of a lexer: what the lexer is called, where it starts, and the
ordered rules of each of its states. It is plain data, made in code or read from a rule file.
-/

namespace RuleLexer

/-- How a lexer is called and chosen. -/
structure LexerInfo where
  name : String := ""
  aliases : List String := []
  filenames : List String := []
  deriving DecidableEq, Repr, Inhabited

namespace LexerInfo

/-- Whether two texts agree once capital letters of ASCII are made small. -/
def sameIgnoringCase (first second : String) : Bool :=
  first.toList.map Char.toLower == second.toList.map Char.toLower

/-- Whether a text is one of the aliases, in whatever case. -/
def matchesAlias (info : LexerInfo) (name : String) : Bool :=
  info.aliases.any fun own => sameIgnoringCase own name

/-- Whether the last part of a path matches one of the file name patterns. -/
def matchesFilename (info : LexerInfo) (path : String) : Bool :=
  info.filenames.any fun pattern => Glob.isMatch pattern (Glob.fileName path)

end LexerInfo

/-- The general part of a definition. -/
structure Header extends LexerInfo where
  entry : String := "root"
  fallback : Category := .plainText
  deriving DecidableEq, Repr, Inhabited

/-- A rule before its patterns are compiled. -/
structure RuleDef where
  pattern : String
  category : Category
  /-- Whether the token is the whole match; otherwise it is the first group, and the rest of the
  match only has to follow. -/
  consumes : Bool := true
  /-- State to enter after the token, or `popTarget`. -/
  next : Option String := none
  /-- Pattern of the character before the token. -/
  lookbehind : Option String := none
  deriving DecidableEq, Repr, Inhabited

namespace RuleDef

/-- The target that leaves the current state instead of entering another one. -/
def popTarget : String := "#pop"

end RuleDef

/-- A lexer before it is compiled. -/
structure Definition where
  header : Header := {}
  states : OrderedMap (List RuleDef) := .empty
  deriving DecidableEq, Repr, Inhabited

namespace Definition

/-- Adds rules at the end of a state, which is made if there is none of the name. -/
def addRules (definition : Definition) (state : String) (rules : List RuleDef) : Definition :=
  { definition with
    states := definition.states.alter state fun present => present.getD [] ++ rules }

/-- The number of rules in all states. -/
def ruleCount (definition : Definition) : Nat :=
  definition.states.values.flatten.length

/-- Whether two definitions agree up to the order of their states. -/
def agrees (first second : Definition) : Bool :=
  first.header == second.header && first.states.sameEntries second.states

end Definition

end RuleLexer
