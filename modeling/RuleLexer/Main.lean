import RuleLexer.CommandLine.Run

/-!
# The program

The program takes down what surrounds it (the variables of the environment, the files that the
command may look at, and standard input) and prints the outcome of the run.
-/

namespace RuleLexer.Main

open CommandLine

/-- What reading to the end gives. -/
def contentsOf (reading : IO ByteArray) : IO Contents := do
  try return .bytes (← reading)
  catch cause => return .failing ⟨toString cause⟩

/-- What a path leads to at this moment. What is neither a file nor a directory may give its bytes
only once, so that it counts as absent where only files are looked at. -/
def entryOf (onlyFiles : Bool) (path : String) : IO FileEntry := do
  try
    let place ← IO.FS.realPath path
    match (← place.metadata).type with
    | .dir => return .directory
    | .file => return .file (← contentsOf (IO.FS.readBinFile place))
    | _ =>
      if onlyFiles then return .absent
      else return .other (← contentsOf (IO.FS.readBinFile place))
  catch _ => return .absent

/-- What some paths lead to at this moment. -/
def snapshot (onlyFiles : Bool) (paths : List String) : IO (List (String × FileEntry)) :=
  paths.mapM fun path => do return (path, ← entryOf onlyFiles path)

/-- The variables that stand for switches. -/
def environment : IO (String → Option String) := do
  let names := Switch.all.filterMap (·.environmentName?)
  let values ← names.filterMapM fun name => do
    return (← IO.getEnv name).map fun value => (name, value)
  return fun name => values.lookup name

/-- The places where settings are looked for: here, below the home directory, and below the
directory for settings. -/
def settingsPlaces : IO (List String) := do
  let file := "splxt.toml"
  let home := ((← IO.getEnv "HOME").filter (! ·.isEmpty)).map (Path.join · ".config")
  let general := (← IO.getEnv "XDG_CONFIG_HOME").filter Path.isAbsolute
  let directories := home.toList ++ (general <|> home).toList
  return file :: directories.map fun directory => Path.join (Path.join directory "splxt") file

/-- Reads a stream to its end, after some bytes. -/
partial def readAll (stream : IO.FS.Stream) (content : ByteArray) : IO ByteArray := do
  let part ← stream.read 65536
  if part.isEmpty then return content else readAll stream (content ++ part)

/-- What surrounds the run: the files that decide about the settings and those that the command may
look at, and standard input if it is among the inputs. -/
def surroundings (arguments : List String) : IO Surroundings := do
  let around : Surroundings :=
    { environment := ← environment
      settingsPlaces := ← settingsPlaces
      files := .ofList []
      standardInput := .bytes .empty }
  match CommandLine.read around.environment arguments with
  | .error _ => return around
  | .ok invocation =>
    let forSettings ← snapshot false (invocation.settingsPaths around)
    let around := { around with files := .ofList forSettings }
    match invocation.settings around with
    | .error _ => return around
    | .ok settings =>
      let forCommand ← snapshot true (invocation.commandPaths settings)
      let inputs := Input.ofArguments invocation.own.operands
      let isRead := invocation.command == .tokens && inputs.toOption.any (·.contains .standard)
      let standardInput ←
        if isRead then contentsOf (do readAll (← IO.getStdin) .empty)
        else pure (.bytes .empty)
      return { around with files := .ofList (forSettings ++ forCommand), standardInput }

end RuleLexer.Main

/-- Runs the program. -/
def main (arguments : List String) : IO UInt32 := do
  let around ← RuleLexer.Main.surroundings arguments
  let outcome := RuleLexer.CommandLine.run around arguments
  IO.print outcome.output
  match outcome.failure with
  | some failure => IO.eprintln ("Error: " ++ failure.message)
  | none => if outcome.code = 2 then IO.eprint RuleLexer.CommandLine.helpText
  return outcome.code.toUInt32
