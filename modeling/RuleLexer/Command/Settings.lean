import RuleLexer.Command.Error
import RuleLexer.Toml.Decode
import RuleLexer.Toml.Document

/-!
# Settings

Settings are read from a file, in which every one of them may be left out. The file is given, or is
the first one that exists among the usual places; if there is none, all settings have their default
values.
-/

namespace RuleLexer

/-- How tokens are printed. -/
inductive OutputFormat
  | text
  | json
  deriving DecidableEq, Repr, Inhabited

namespace OutputFormat

def all : List OutputFormat := [.text, .json]

def name : OutputFormat → String
  | text => "text"
  | json => "json"

def ofName? (text : String) : Option OutputFormat :=
  all.find? (·.name == text)

end OutputFormat

/-- The settings. -/
structure Settings where
  verbose : Bool := false
  /-- Alias of the lexer for inputs whose names select none. -/
  defaultLanguage : String := "spl"
  /-- Directories with rule files that are named for aliases. -/
  rulesDirs : List String := []
  format : OutputFormat := .text
  merge : Bool := false
  deriving DecidableEq, Repr, Inhabited

namespace Settings

open Toml

/-- Whether a value is a table or an array without contents. -/
def isHollow : Value → Bool
  | .table _ entries => entries.isEmpty
  | .array _ items => items.isEmpty
  | _ => false

/-- The format that a value names: by its name, or by a table whose only entry has that name and no
contents. -/
def readFormat? : Value → Option OutputFormat
  | .string text => OutputFormat.ofName? text
  | .table _ [(name, contents)] => if isHollow contents then OutputFormat.ofName? name else none
  | _ => none

/-- Sets a field of the part on output. -/
def setOutputField? (settings : Settings) (field : String) (value : Value) : Option Settings := do
  match field with
  | "format" => return { settings with format := ← readFormat? value }
  | "merge" => return { settings with merge := ← value.expectBoolean.toOption }
  | _ => return settings

/-- Reads the part on output, which may be written as an array of its fields. -/
def setOutput? (settings : Settings) (value : Value) : Option Settings := do
  let fields ← (value.expectFields ["format", "merge"] "struct OutputConfig").toOption
  fields.foldlM (fun settings field => setOutputField? settings field.1 field.2) settings

/-- Sets an entry at the top of the document. -/
def setField? (settings : Settings) (field : String) (value : Value) : Option Settings := do
  match field with
  | "verbose" => return { settings with verbose := ← value.expectBoolean.toOption }
  | "default_language" => return { settings with defaultLanguage := ← value.expectString.toOption }
  | "rules_dirs" => return { settings with rulesDirs := ← value.expectStrings.toOption }
  | "output" => setOutput? settings value
  | _ => return settings

/-- Reads settings from the text of a file. -/
def read? (text : String) : Option Settings := do
  let top ← Toml.read? text
  top.foldlM (fun settings entry => setField? settings entry.1 entry.2) {}

/-- Reads settings from a file. -/
def loadFrom (files : FileSystem) (path : String) : Except CommandError Settings := do
  if !files.exists? path then throw (.settings (.notFound path))
  let text ← (files.readText path).mapError .reading
  match read? text with
  | some settings => return settings
  | none => throw (.settings .malformed)

/-- Reads settings from the first of some places that exists. -/
def load (files : FileSystem) (places : List String) : Except CommandError Settings :=
  match places.find? files.exists? with
  | some path => loadFrom files path
  | none => .ok {}

end Settings

end RuleLexer
