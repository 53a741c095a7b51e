import RuleLexer.Definition
import RuleLexer.Toml.Decode
import RuleLexer.Toml.Document

/-!
# Reading rule files

A rule file is a document with a table `lexer`, the general part of a definition, and a table
`states`, which has an array of rules for every state. Everything but the pattern and the category
of a rule may be left out, and names that mean nothing here are passed over. Values are looked at in
the order of the document, and the first fault counts; that something is missing from a rule is
found after its other entries.
-/

namespace RuleLexer.RuleFile

open Toml

/-- Why a document is not a rule file. -/
inductive SchemaError
  | unknownCategory (text : String)
  | mismatch (mismatch : Mismatch)
  | missingField (field : String)
  /-- A rule that is written as an array has too few items. -/
  | shortRule (length : Nat)
  deriving DecidableEq, Repr

namespace SchemaError

def message : SchemaError → String
  | unknownCategory text => Category.unknownMessage text
  | .mismatch wrong => wrong.message
  | missingField field => "missing field \x60" ++ field ++ "\x60"
  | shortRule length =>
    "invalid length " ++ toString length ++ ", expected struct RuleDef with 5 elements"

end SchemaError

/-- Why a text is not a rule file. -/
inductive ReadError
  | malformed
  | schema (cause : SchemaError)
  deriving DecidableEq, Repr

/-- Turns a mismatch into a fault of a rule file. -/
def expecting {α : Type} (result : Except Mismatch α) : Except SchemaError α :=
  result.mapError .mismatch

/-- The category that a value names. -/
def readCategory (value : Value) : Except SchemaError Category := do
  let text ← expecting value.expectString
  (Category.ofName text).mapError fun unknown => .unknownCategory unknown.text

/-- The fields of the general part, in order. -/
def headerFields : List String := ["name", "aliases", "filenames", "entry", "fallback"]

/-- Sets a field of the general part. -/
def setHeaderField (header : Header) (field : String) (value : Value) :
    Except SchemaError Header := do
  match field with
  | "name" => return { header with name := ← expecting value.expectString }
  | "aliases" => return { header with aliases := ← expecting value.expectStrings }
  | "filenames" => return { header with filenames := ← expecting value.expectStrings }
  | "entry" => return { header with entry := ← expecting value.expectString }
  | "fallback" => return { header with fallback := ← readCategory value }
  | _ => return header

/-- Reads the general part. -/
def readHeader (value : Value) : Except SchemaError Header := do
  let fields ← expecting (value.expectFields headerFields "struct LexerHeader")
  fields.foldlM (fun header field => setHeaderField header field.1 field.2) {}

/-- A rule of which something may be missing. -/
structure PartialRule where
  pattern : Option String := none
  category : Option Category := none
  consumes : Bool := true
  next : Option String := none
  lookbehind : Option String := none
  deriving DecidableEq, Repr

/-- The fields of a rule, in order. -/
def ruleFields : List String := ["pattern", "category", "consumes", "next", "lookbehind"]

/-- Sets a field of a rule. -/
def setRuleField (rule : PartialRule) (field : String) (value : Value) :
    Except SchemaError PartialRule := do
  match field with
  | "pattern" => return { rule with pattern := some (← expecting value.expectString) }
  | "category" => return { rule with category := some (← readCategory value) }
  | "consumes" => return { rule with consumes := ← expecting value.expectBoolean }
  | "next" => return { rule with next := some (← expecting value.expectString) }
  | "lookbehind" => return { rule with lookbehind := some (← expecting value.expectString) }
  | _ => return rule

/-- The fault of a rule without a field that it needs. -/
def missing (value : Value) (field : String) : SchemaError :=
  match value with
  | .array _ items => .shortRule items.length
  | _ => .missingField field

def readRule (value : Value) : Except SchemaError RuleDef := do
  let fields ← expecting (value.expectFields ruleFields "struct RuleDef")
  let rule ← fields.foldlM (fun rule field => setRuleField rule field.1 field.2)
    ({} : PartialRule)
  match rule.pattern, rule.category with
  | none, _ => throw (missing value "pattern")
  | _, none => throw (missing value "category")
  | some pattern, some category =>
    return { pattern, category, consumes := rule.consumes, next := rule.next,
             lookbehind := rule.lookbehind }

/-- Reads the rules of a state. -/
def readRules (value : Value) : Except SchemaError (List RuleDef) := do
  let items ← expecting value.expectItems
  items.mapM readRule

def readStates (value : Value) : Except SchemaError (OrderedMap (List RuleDef)) := do
  let entries ← expecting value.expectEntries
  (OrderedMap.ofList entries).traverse fun _ rules => readRules rules

/-- Reads an entry at the top of the document. -/
def setPart (definition : Definition) (name : String) (value : Value) :
    Except SchemaError Definition := do
  match name with
  | "lexer" => return { definition with header := ← readHeader value }
  | "states" => return { definition with states := ← readStates value }
  | _ => return definition

/-- Reads the definition in a document. -/
def readDefinition (top : Entries) : Except SchemaError Definition :=
  top.foldlM (fun definition entry => setPart definition entry.1 entry.2) {}

def read (text : String) : Except ReadError Definition :=
  match Toml.read? text with
  | none => .error .malformed
  | some top => (readDefinition top).mapError .schema

end RuleLexer.RuleFile
