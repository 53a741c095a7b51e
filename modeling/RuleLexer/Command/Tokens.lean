import RuleLexer.Command.Gathering
import RuleLexer.Command.Input
import RuleLexer.Command.LexerChoice
import RuleLexer.Json
import RuleLexer.Scan.Tokens
import RuleLexer.Source.Map

/-!
# Printing tokens

The command for tokens reads all of its inputs, scans each with its lexer, and prints every token
with its line and column: one a line, or as JSON. A lexer that all inputs have in common is made
before any input is read; the other lexers are made when all inputs have been read, by workers that
scan the inputs side by side. The first failure in this order is the failure of the command; of the
failures of workers it is the one that is gathered.
-/

namespace RuleLexer

/-- What the command for tokens is asked. -/
structure TokensRequest where
  arguments : List String := []
  language : Option String := none
  rules : Option String := none
  format : OutputFormat := .text
  merge : Bool := false
  deriving DecidableEq, Repr, Inhabited

/-- A token with its place in lines and columns. -/
structure TokenRecord where
  category : Category
  text : String
  start : Nat
  stop : Nat
  /-- Line of its first character, from one. -/
  line : Nat
  /-- Column of its first character, from one. -/
  column : Nat
  deriving DecidableEq, Repr

/-- The tokens of an input. -/
structure FileTokens where
  file : String
  tokens : List TokenRecord
  deriving DecidableEq, Repr

namespace TokenRecord

def ofToken (file : SourceFile) (token : Token) : Except SourceError TokenRecord := do
  let text ← file.slice token.span
  let (line, column) := file.lineColumn token.start
  return {
    category := token.category, text, start := token.start, stop := token.stop, line, column }

def toJson (record : TokenRecord) : Json :=
  .object [("category", .string record.category.name), ("text", .string record.text),
    ("start", .number record.start), ("end", .number record.stop),
    ("line", .number record.line), ("column", .number record.column)]

/-- The record on one line: its place, its category and its quoted text. -/
def render (record : TokenRecord) : String :=
  toString record.line ++ ":" ++ toString record.column ++ "\t" ++ record.category.name ++ "\t" ++
    Text.quoted record.text ++ "\n"

end TokenRecord

namespace SourceFile

/-- The tokens of a file under a table, with their places. -/
def tokenRecords (file : SourceFile) (table : RuleTable) (merge : Bool) :
    Except SourceError FileTokens := do
  let scanned := table.tokenize file.content
  let tokens := if merge then Token.coalesce scanned else scanned
  return { file := file.name, tokens := ← tokens.mapM (TokenRecord.ofToken file) }

end SourceFile

namespace TokensRequest

/-- How the lexers for the inputs are chosen. -/
def choice (request : TokensRequest) : LexerChoice :=
  .ofOptions request.rules request.language

/-- The table that all inputs have in common, if the choice does not depend on the input. -/
def sharedTable (request : TokensRequest) (files : FileSystem) (settings : Settings) :
    Except CommandError (Option RuleTable) :=
  if request.choice.isFixed then some <$> request.choice.resolve files settings none
  else .ok none

/-- Reads inputs, in order, into a source map; also the identifiers of their texts. -/
def readInputs (files : FileSystem) (standardInput : Contents) :
    SourceMap → List Input → Except CommandError (SourceMap × List FileId)
  | sources, [] => .ok (sources, [])
  | sources, input :: rest => do
    let text ← input.read files standardInput
    let (sources, id) := sources.add input.name text
    let (sources, ids) ← readInputs files standardInput sources rest
    return (sources, id :: ids)

/-- What the worker for an input gives: the tokens of its text, under the table that all inputs have
in common or else under the table for this one. -/
def tokensOf (request : TokensRequest) (files : FileSystem) (settings : Settings)
    (shared : Option RuleTable) (sources : SourceMap) (input : Input) (id : FileId) :
    Except CommandError FileTokens := do
  let table ←
    match shared with
    | some table => pure table
    | none => request.choice.resolve files settings input.path?
  let file ← (sources.get id).mapError .source
  (file.tokenRecords table request.merge).mapError .source

/-- The tokens of each input, in order, if the workers are gathered in the given way. -/
def collect (request : TokensRequest) (files : FileSystem) (standardInput : Contents)
    (settings : Settings) (gathering : Gathering CommandError FileTokens) :
    Except CommandError (List FileTokens) := do
  let inputs ← Input.ofArguments request.arguments
  let shared ← request.sharedTable files settings
  let (sources, ids) ← readInputs files standardInput .empty inputs
  gathering.gather (List.zipWith (request.tokensOf files settings shared sources) inputs ids)

/-- The tokens of some inputs as text; of several inputs, every line begins with the name of its
input. -/
def renderText (inputs : List FileTokens) : String :=
  let named := decide (1 < inputs.length)
  String.join <| inputs.flatMap fun input =>
    input.tokens.map fun record =>
      (if named then input.file ++ ":" else "") ++ record.render

/-- The tokens of some inputs as JSON. -/
def renderJson (inputs : List FileTokens) : String :=
  Json.pretty (.array (inputs.map fun input =>
    .object [("file", .string input.file), ("tokens", .array (input.tokens.map (·.toJson)))])) ++
    "\n"

/-- What the command prints if the workers are gathered in the given way. -/
def runWith (request : TokensRequest) (files : FileSystem) (standardInput : Contents)
    (settings : Settings) (gathering : Gathering CommandError FileTokens) :
    Except CommandError String := do
  let inputs ← request.collect files standardInput settings gathering
  match request.format with
  | .text => return renderText inputs
  | .json => return renderJson inputs

def run (request : TokensRequest) (files : FileSystem) (standardInput : Contents)
    (settings : Settings) : Except CommandError String :=
  request.runWith files standardInput settings .inOrder

end TokensRequest

end RuleLexer
