import RuleLexer.CommandLine.Switch

/-!
# Reading arguments

Arguments are read from left to right. An argument is a long switch, a group of letters, a value of
the switch before it, the name of a command, or an operand; after `--` everything is an operand. A
value may be attached to its switch. A switch may be given once before the name of a command and
once after it. Reading stops at the first argument that asks for help or for the version, and at the
first that is wrong.

The value of a switch is looked at when the next argument is a switch or an operand, or when there
are no more arguments.
-/

namespace RuleLexer.CommandLine

/-- Why the program does not go on to a command. -/
inductive Stop
  | usage
  | help
  | version (level : Level)
  deriving DecidableEq, Repr

/-- What has been read at a level. -/
structure Given where
  /-- The switches, with their values; a switch without a value has the empty one. -/
  switches : List (Switch × String) := []
  operands : List String := []
  /-- The last switch if it takes a value, with its value once it is known. -/
  pending : Option (Switch × Option String) := none
  operandsOnly : Bool := false
  deriving DecidableEq, Repr

namespace Given

/-- Notes a switch, which must not have been given, with a value that it accepts. -/
def note (given : Given) (switch : Switch) (value : String) : Except Stop Given :=
  if (given.switches.lookup switch).isSome || !switch.accepts value then .error .usage
  else .ok { given with switches := given.switches ++ [(switch, value)], pending := none }

/-- Looks at the last switch, which must have its value by now. -/
def settle (given : Given) : Except Stop Given :=
  match given.pending with
  | none => .ok given
  | some (_, none) => .error .usage
  | some (switch, some value) => given.note switch value

/-- Whether the last switch waits for its value. -/
def isWaiting (given : Given) : Bool :=
  match given.pending with
  | some (_, none) => true
  | _ => false

/-- Reads a switch without a value. -/
def addFlag (given : Given) (level : Level) (switch : Switch) : Except Stop Given := do
  let given ← given.settle
  match switch with
  | .help => throw .help
  | .version => throw (.version level)
  | _ => given.note switch ""

/-- Reads a switch with the value that is attached to it, if there is one. -/
def addOption (given : Given) (switch : Switch) (attached : Option String) :
    Except Stop Given := do
  let given ← given.settle
  match attached with
  | some value => given.note switch value
  | none => return { given with pending := some (switch, none) }

/-- Reads a long switch, given without its hyphens. -/
def addLong (given : Given) (level : Level) (text : List Char) : Except Stop Given :=
  let name := text.takeWhile (· != '=')
  let attached :=
    match text.dropWhile (· != '=') with
    | [] => none
    | _ :: value => some (String.ofList value)
  match Switch.ofLongName? level (String.ofList name) with
  | none => .error .usage
  | some switch =>
    if switch.takesValue then given.addOption switch attached
    else if attached.isSome then .error .usage
    else given.addFlag level switch

/-- The value that follows the letter of a switch in a group; an equals sign before it is left
out. -/
def attachedValue : List Char → Option String
  | [] => none
  | '=' :: value => some (String.ofList value)
  | value => some (String.ofList value)

/-- Reads a group of letters. What follows the letter of a switch with a value is its value. -/
def addLetters (given : Given) (level : Level) : List Char → Except Stop Given
  | [] => .ok given
  | letter :: rest =>
    match Switch.ofLetter? level letter with
    | none => .error .usage
    | some switch =>
      if switch.takesValue then given.addOption switch (attachedValue rest)
      else
        match given.addFlag level switch with
        | .error stop => .error stop
        | .ok given => given.addLetters level rest

/-- Reads an operand. The command for tokens takes any number of paths, that for checking one. -/
def addOperand (given : Given) (level : Level) (operand : String) : Except Stop Given := do
  let given ← given.settle
  let isTaken :=
    match level with
    | .command .tokens => true
    | .command .check => given.operands.isEmpty
    | _ => false
  if isTaken && !operand.isEmpty then return { given with operands := given.operands ++ [operand] }
  else throw .usage

/-- Reads an argument that is not the name of a command. -/
def addArgument (given : Given) (level : Level) (argument : String) : Except Stop Given :=
  if given.operandsOnly then given.addOperand level argument
  else
    match argument.toList with
    | ['-', '-'] => .ok { given with operandsOnly := true }
    | '-' :: '-' :: text => given.addLong level text
    | '-' :: letter :: letters => given.addLetters level (letter :: letters)
    | _ =>
      match given.pending with
      | some (switch, none) => .ok { given with pending := some (switch, some argument) }
      | _ => given.addOperand level argument

/-- Ends reading at a level: looks at the last switch, and at the variables of the environment for
the switches that are not given. -/
def finish (given : Given) (environment : String → Option String) : Except Stop Given := do
  let given ← given.settle
  let isWrong (switch : Switch) : Bool :=
    (given.switches.lookup switch).isNone &&
      match switch.environmentName?.bind environment with
      | some value => !switch.acceptsVariable value
      | none => false
  if Switch.all.any isWrong then throw .usage else return given

end Given

/-- What the arguments ask for. -/
structure Invocation where
  command : CommandKind
  top : Given
  own : Given
  deriving DecidableEq, Repr

/-- The arguments after the name of the command for help: at most the name of a command. -/
def readHelp (arguments : List String) : Stop :=
  match arguments with
  | [] => .help
  | [name] => if (CommandKind.ofName? name).isSome || name == "help" then .help else .usage
  | _ => .usage

/-- Reads the arguments after the name of a command. -/
def readOwn (kind : CommandKind) (environment : String → Option String)
    (arguments : List String) : Except Stop Given := do
  let given ← arguments.foldlM
    (fun (given : Given) argument => given.addArgument (.command kind) argument) {}
  let given ← given.finish environment
  if kind = .check ∧ given.operands.isEmpty then throw .usage else return given

/-- Reads arguments up to the name of a command, and then those of the command. -/
def readFrom (environment : String → Option String) (top : Given) :
    List String → Except Stop Invocation
  | [] => .error .usage
  | argument :: rest =>
    if top.operandsOnly || top.isWaiting then
      match top.addArgument .top argument with
      | .error stop => .error stop
      | .ok top => readFrom environment top rest
    else if argument = "help" then .error (readHelp rest)
    else
      match CommandKind.ofName? argument with
      | some kind => do
        let own ← readOwn kind environment rest
        let top ← top.finish environment
        return { command := kind, top, own }
      | none =>
        match top.addArgument .top argument with
        | .error stop => .error stop
        | .ok top => readFrom environment top rest

def read (environment : String → Option String) (arguments : List String) :
    Except Stop Invocation :=
  readFrom environment {} arguments

namespace Invocation

/-- The path of the file with settings: the one after the name of the command, the one before it, or
the one of the environment. -/
def settingsPath (invocation : Invocation) (environment : String → Option String) :
    Option String :=
  invocation.own.switches.lookup .config <|> invocation.top.switches.lookup .config <|>
    Switch.config.environmentName?.bind environment

/-- Whether a switch without a value is given after the name of the command. -/
def has (invocation : Invocation) (switch : Switch) : Bool :=
  (invocation.own.switches.lookup switch).isSome

end Invocation

end RuleLexer.CommandLine
