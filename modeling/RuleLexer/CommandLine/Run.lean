import RuleLexer.Command.Check
import RuleLexer.Command.Languages
import RuleLexer.Command.Tokens
import RuleLexer.CommandLine.Arguments

/-!
# Running the program

A run of the program is a function of its arguments, the environment, the files and standard input.
It reads the arguments, then the settings, and then executes the command. What is not given is taken
from the settings.
-/

namespace RuleLexer.CommandLine

/-- What surrounds a run of the program. -/
structure Surroundings where
  environment : String → Option String
  /-- The places where settings are looked for, in order. -/
  settingsPlaces : List String
  files : FileSystem
  standardInput : Contents

/-- How a run ends. -/
structure Outcome where
  code : UInt8
  output : String := ""
  failure : Option CommandError := none

def programName : String := "splxt"

def versionNumber : String := "0.1.0"

/-- The line on the version, which also has the name of the command that is asked for it. -/
def versionLine (level : Level) : String :=
  let name :=
    match level with
    | .top => programName
    | .command kind => programName ++ "-" ++ kind.name
  name ++ " " ++ versionNumber ++ "\n"

/-- The text on how to use the program. -/
def helpText : String :=
  "Usage: " ++ programName ++ " [OPTIONS] <COMMAND>\n\nCommands:\n" ++
    String.join (CommandKind.all.map fun kind =>
      "  " ++ kind.name ++ "  " ++ kind.description ++ "\n")

namespace Stop

/-- How a run ends that does not go on to a command. -/
def outcome : Stop → Outcome
  | .usage => { code := 2 }
  | .help => { code := 0, output := helpText }
  | .version level => { code := 0, output := versionLine level }

end Stop

namespace Invocation

def settings (invocation : Invocation) (around : Surroundings) : Except CommandError Settings :=
  match invocation.settingsPath around.environment with
  | some path => Settings.loadFrom around.files path
  | none => Settings.load around.files around.settingsPlaces

/-- What the command for tokens is asked. -/
def tokensRequest (invocation : Invocation) (settings : Settings) : TokensRequest where
  arguments := invocation.own.operands
  language := invocation.own.switches.lookup .language
  rules := invocation.own.switches.lookup .rules
  format :=
    ((invocation.own.switches.lookup .format).bind OutputFormat.ofName?).getD settings.format
  merge := invocation.has .merge || settings.merge

/-- The paths that decide about the settings, in order. -/
def settingsPaths (invocation : Invocation) (around : Surroundings) : List String :=
  match invocation.settingsPath around.environment with
  | some path => [path]
  | none => around.settingsPlaces

/-- The paths that the command may look at under given settings. -/
def commandPaths (invocation : Invocation) (settings : Settings) : List String :=
  let request := invocation.tokensRequest settings
  let aliases := request.language.toList ++ [settings.defaultLanguage]
  request.arguments ++ request.rules.toList ++
    aliases.flatMap fun name => rulesPlaces settings name

/-- What the command prints. -/
def execute (invocation : Invocation) (around : Surroundings) : Except CommandError String := do
  let settings ← invocation.settings around
  match invocation.command with
  | .tokens => (invocation.tokensRequest settings).run around.files around.standardInput settings
  | .check =>
    let path := invocation.own.operands.headD ""
    let report ← CheckReport.ofFile around.files path
    return report.render path
  | .languages => return Languages.render

end Invocation

/-- Runs the program. -/
def run (around : Surroundings) (arguments : List String) : Outcome :=
  match read around.environment arguments with
  | .error stop => stop.outcome
  | .ok invocation =>
    match invocation.execute around with
    | .ok output => { code := 0, output }
    | .error failure => { code := 1, failure := some failure }

end RuleLexer.CommandLine
