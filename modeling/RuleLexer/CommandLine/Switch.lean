import RuleLexer.Command.Kind
import RuleLexer.Command.Settings

/-!
# Switches

The switches of the command line. Each has a long name, and most have a letter. Some are known
before and after the name of a command, others only to the command for tokens. A switch may take a
value, and not every text is a value of every switch.
-/

namespace RuleLexer.CommandLine

/-- A switch. -/
inductive Switch
  | verbose
  | config
  | noColor
  | language
  | rules
  | format
  | merge
  | help
  | version
  deriving DecidableEq, Repr

/-- Where an argument stands: before the name of a command, or after it. -/
inductive Level
  | top
  | command (kind : CommandKind)
  deriving DecidableEq, Repr

namespace Switch

def all : List Switch :=
  [.verbose, .config, .noColor, .language, .rules, .format, .merge, .help, .version]

def longName : Switch → String
  | verbose => "verbose"
  | config => "config"
  | noColor => "no-color"
  | language => "lang"
  | rules => "rules"
  | format => "format"
  | merge => "merge"
  | help => "help"
  | version => "version"

def letter? : Switch → Option Char
  | verbose => some 'v'
  | config => some 'c'
  | noColor => none
  | language => some 'l'
  | rules => some 'r'
  | format => some 'F'
  | merge => some 'm'
  | help => some 'h'
  | version => some 'V'

def takesValue : Switch → Bool
  | config | language | rules | format => true
  | _ => false

/-- Whether the switch is known only to the command for tokens. -/
def isForTokens : Switch → Bool
  | language | rules | format | merge => true
  | _ => false

/-- Whether the switch is known at a level. -/
def isKnownAt (switch : Switch) (level : Level) : Bool :=
  !switch.isForTokens || level == .command .tokens

/-- The switch with a long name at a level. -/
def ofLongName? (level : Level) (name : String) : Option Switch :=
  all.find? fun switch => switch.isKnownAt level && switch.longName == name

/-- The switch with a letter at a level. -/
def ofLetter? (level : Level) (letter : Char) : Option Switch :=
  all.find? fun switch => switch.isKnownAt level && switch.letter? == some letter

/-- Whether a text is a value of the switch: paths are not empty, and formats have names. -/
def accepts (switch : Switch) (value : String) : Bool :=
  match switch with
  | config | rules => !value.isEmpty
  | format => (OutputFormat.ofName? value).isSome
  | _ => true

/-- The variable of the environment that stands for the switch where it is not given. -/
def environmentName? : Switch → Option String
  | verbose => some "SPLXT_VERBOSE"
  | config => some "SPLXT_CONFIG"
  | noColor => some "SPLXT_NO_COLOR"
  | _ => none

/-- Whether a text is a value of the variable for the switch. -/
def acceptsVariable (switch : Switch) (value : String) : Bool :=
  if switch.takesValue then switch.accepts value else value == "true" || value == "false"

end Switch

end RuleLexer.CommandLine
