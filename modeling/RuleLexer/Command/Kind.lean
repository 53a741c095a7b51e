/-!
# Commands

The commands of the program, with their names and descriptions.
-/

namespace RuleLexer

/-- A command of the program. -/
inductive CommandKind
  | tokens
  | check
  | languages
  deriving DecidableEq, Repr

namespace CommandKind

def all : List CommandKind := [.tokens, .check, .languages]

def name : CommandKind → String
  | tokens => "tokens"
  | check => "check"
  | languages => "languages"

def ofName? (text : String) : Option CommandKind :=
  all.find? (·.name == text)

/-- What a command does, in short. -/
def description : CommandKind → String
  | tokens => "Tokenize search files"
  | check => "Validate a rule file"
  | languages => "List bundled languages"

/-- What a command does. -/
def help : CommandKind → String
  | tokens =>
    "Tokenizes each file (or stdin) with the selected lexer and prints one token per line, " ++
      "or a JSON array with --format json."
  | check =>
    "Parses and compiles a TOML rule file and reports the number of states and rules, " ++
      "or the state and rule index of the first error."
  | languages =>
    "Prints the name, aliases and file name patterns of every language compiled into splxt."

end CommandKind

end RuleLexer
