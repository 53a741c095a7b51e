import RuleLexer.Bundled
import RuleLexer.Command.Settings
import RuleLexer.Files.Path

/-!
# Choosing a lexer

The lexer for an input is given by a rule file, or by an alias, or is detected: by the name of the
input, and otherwise it is the one of the default language. A rule file in one of the directories
for rule files, named for an alias, comes before the bundled languages.
-/

namespace RuleLexer

/-- How the lexer for an input is chosen. -/
inductive LexerChoice
  | rulesFile (path : String)
  | language (name : String)
  | detect
  deriving DecidableEq, Repr

/-- Reads the definition in a rule file. -/
def loadRulesFile (files : FileSystem) (path : String) : Except CommandError Definition := do
  if !files.isFile path then throw (.arguments (.ruleFileNotFound path))
  let text ← (files.readText path).mapError .reading
  (RuleFile.read text).mapError fun cause => .rules (.read cause)

/-- The places where a rule file for an alias may be, in order. -/
def rulesPlaces (settings : Settings) (name : String) : List String :=
  settings.rulesDirs.map fun directory => Path.join directory (name ++ ".toml")

def definitionForAlias (files : FileSystem) (settings : Settings) (name : String) :
    Except CommandError Definition :=
  match (rulesPlaces settings name).find? files.isFile with
  | some path => loadRulesFile files path
  | none =>
    match Bundled.findByAlias? name with
    | some definition => .ok definition
    | none => .error (.unknownLanguage name)

/-- Compiles a definition for a command. -/
def compileDefinition (definition : Definition) : Except CommandError RuleTable :=
  (RuleTable.build definition).mapError fun cause => .rules (.build cause)

namespace LexerChoice

/-- The choice for a rule file and an alias that may be given; the rule file comes first. -/
def ofOptions (rules language : Option String) : LexerChoice :=
  match rules, language with
  | some path, _ => .rulesFile path
  | none, some name => .language name
  | none, none => .detect

def kindName : LexerChoice → String
  | .rulesFile _ => "RulesFile"
  | .language _ => "Alias"
  | .detect => "Detect"

/-- Whether all inputs have the same lexer. -/
def isFixed : LexerChoice → Bool
  | .detect => false
  | _ => true

/-- The definition for an input with a path, or for standard input. A path that is not a text is
left out: no language is detected by it, so the default language would be taken. -/
def definition (choice : LexerChoice) (files : FileSystem) (settings : Settings)
    (path : Option String) : Except CommandError Definition :=
  match choice with
  | .rulesFile rules => loadRulesFile files rules
  | .language name => definitionForAlias files settings name
  | .detect =>
    match path.bind Bundled.findForFilename? with
    | some detected => .ok detected
    | none => definitionForAlias files settings settings.defaultLanguage

/-- The table for an input with a path, or for standard input. -/
def resolve (choice : LexerChoice) (files : FileSystem) (settings : Settings)
    (path : Option String) : Except CommandError RuleTable := do
  let definition ← choice.definition files settings path
  compileDefinition definition

end LexerChoice

end RuleLexer
