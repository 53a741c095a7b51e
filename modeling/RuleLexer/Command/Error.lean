import RuleLexer.Files.System
import RuleLexer.RuleFile.Reader
import RuleLexer.RuleTable
import RuleLexer.Source.File

/-!
# Failures of commands

Why a command gives no answer, and how it says so.
-/

namespace RuleLexer

/-- Why a rule file gives no table. -/
inductive RuleFileFault
  | read (cause : RuleFile.ReadError)
  | build (cause : BuildError)
  deriving DecidableEq, Repr

namespace RuleFileFault

def message : RuleFileFault → String
  | .read .malformed => "invalid TOML"
  | .read (.schema cause) => cause.message
  | .build cause => cause.message

end RuleFileFault

/-- Why the settings cannot be taken from a file. -/
inductive SettingsFault
  | notFound (path : String)
  | malformed
  deriving DecidableEq, Repr

namespace SettingsFault

def message : SettingsFault → String
  | notFound path => "Configuration file not found: " ++ path
  | malformed => "Failed to parse configuration"

end SettingsFault

/-- What is wrong with the arguments of a command. -/
inductive ArgumentFault
  | repeatedStandardInput
  | inputNotFound (path : String)
  | ruleFileNotFound (path : String)
  deriving DecidableEq, Repr

namespace ArgumentFault

def message : ArgumentFault → String
  | repeatedStandardInput => "stdin (\x60-\x60) can be given only once"
  | inputNotFound path => "Input file not found: " ++ path
  | ruleFileNotFound path => "Rule file not found: " ++ path

end ArgumentFault

/-- Why a command fails. -/
inductive CommandError
  | settings (cause : SettingsFault)
  | rules (cause : RuleFileFault)
  | unknownLanguage (name : String)
  | arguments (cause : ArgumentFault)
  | source (cause : SourceError)
  | reading (cause : ReadFault)
  deriving DecidableEq, Repr

namespace CommandError

def message : CommandError → String
  | .settings cause => "Configuration error: " ++ cause.message
  | .rules cause => "Rule file error: " ++ cause.message
  | .unknownLanguage name => "Unknown language: " ++ name
  | .arguments cause => "Validation error: " ++ cause.message
  | .source cause => "Source error: " ++ cause.message
  | .reading cause => "IO error: " ++ cause.message

end CommandError

end RuleLexer
