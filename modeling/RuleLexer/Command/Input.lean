import RuleLexer.Command.Error

/-!
# Inputs

An input is a file or standard input. Standard input can be read only once, so it may occur only
once among the inputs of a command; it is also what a command without inputs reads.

The path of a file is a text, and so is its name for people. An argument that is not the UTF-8 form
of a text is left out.
-/

namespace RuleLexer

/-- Where a text comes from. -/
inductive Input
  | standard
  | file (path : String)
  deriving DecidableEq, Repr

namespace Input

/-- The input that an argument stands for. -/
def ofArgument (argument : String) : Input :=
  if argument = "-" then .standard else .file argument

/-- The inputs that arguments stand for. -/
def ofArguments (arguments : List String) : Except CommandError (List Input) :=
  match arguments with
  | [] => .ok [.standard]
  | _ =>
    let inputs := arguments.map ofArgument
    if 1 < inputs.count .standard then .error (.arguments .repeatedStandardInput) else .ok inputs

def name : Input → String
  | .standard => "<stdin>"
  | .file path => path

def path? : Input → Option String
  | .standard => none
  | .file path => some path

/-- Reads an input as text. -/
def read (files : FileSystem) (standardInput : Contents) : Input → Except CommandError String
  | .standard => standardInput.readText.mapError .reading
  | .file path =>
    if files.isFile path then (files.readText path).mapError .reading
    else .error (.arguments (.inputNotFound path))

end Input

end RuleLexer
