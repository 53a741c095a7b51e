import RuleLexer.Command.LexerChoice

/-!
# Checking rule files

The command for checking compiles a rule file and reports how large it is.
-/

namespace RuleLexer

/-- The size of a rule file that compiles. -/
structure CheckReport where
  name : String
  states : Nat
  rules : Nat
  deriving DecidableEq, Repr

namespace CheckReport

def ofTable (table : RuleTable) : CheckReport where
  name := table.info.name
  states := table.stateCount
  rules := table.ruleCount

def ofFile (files : FileSystem) (path : String) : Except CommandError CheckReport := do
  let definition ← loadRulesFile files path
  let table ← compileDefinition definition
  return ofTable table

/-- What the command prints on a rule file. A lexer without a name is called by the path. -/
def render (report : CheckReport) (path : String) : String :=
  (if report.name.isEmpty then path else report.name) ++ ": ok (" ++ toString report.states ++
    " states, " ++ toString report.rules ++ " rules)\n"

end CheckReport

end RuleLexer
