import RuleLexer.Text.Quoted
import RuleLexer.Toml.Value

/-!
# Expecting values of a kind

What a document means is read off its values, each of which is expected to be of a certain kind. A
value of another kind is a mismatch, which says what was found and what was expected. A moment
counts as a table with a single entry, whose name is one that no reader knows.
-/

namespace RuleLexer.Toml

/-- A value as a mismatch reports it. -/
inductive Found
  | integer (value : Int)
  | float (value : Double)
  | boolean (value : Bool)
  | string (text : String)
  | sequence
  | map
  deriving DecidableEq, Repr

namespace Found

def describe : Found → String
  | integer value => "integer \x60" ++ toString value ++ "\x60"
  | float value => "floating point \x60" ++ value.describe ++ "\x60"
  | boolean value => "boolean \x60" ++ toString value ++ "\x60"
  | string text => "string " ++ Text.quoted text
  | sequence => "sequence"
  | map => "map"

end Found

/-- A value that is not of the expected kind. -/
structure Mismatch where
  found : Found
  expected : String
  deriving DecidableEq, Repr

namespace Mismatch

def message (mismatch : Mismatch) : String :=
  "invalid type: " ++ mismatch.found.describe ++ ", expected " ++ mismatch.expected

end Mismatch

namespace Value

/-- The name of the single entry of a moment. -/
def momentKey : String := "$moment"

/-- The value as a mismatch reports it. -/
def found : Value → Found
  | string text => .string text
  | integer value => .integer value
  | float value => .float value
  | boolean value => .boolean value
  | moment _ => .map
  | array _ _ => .sequence
  | table _ _ => .map

/-- The text of a string. -/
def expectString : Value → Except Mismatch String
  | .string text => .ok text
  | value => .error ⟨value.found, "a string"⟩

/-- A truth value. -/
def expectBoolean : Value → Except Mismatch Bool
  | .boolean value => .ok value
  | value => .error ⟨value.found, "a boolean"⟩

/-- The items of an array. -/
def expectItems : Value → Except Mismatch (List Value)
  | .array _ items => .ok items
  | value => .error ⟨value.found, "a sequence"⟩

/-- The strings of an array. -/
def expectStrings (value : Value) : Except Mismatch (List String) := do
  let items ← value.expectItems
  items.mapM expectString

/-- The entries of a table. -/
def expectEntries : Value → Except Mismatch Entries
  | .table _ entries => .ok entries
  | .moment text => .ok [(momentKey, .string text)]
  | value => .error ⟨value.found, "a map"⟩

/-- The fields of a record, which is either a table or an array of the values of the given fields in
order. Fields at the end of the array may be missing, and further items do not count. -/
def expectFields (fields : List String) (expected : String) :
    Value → Except Mismatch Entries
  | .table _ entries => .ok entries
  | .moment text => .ok [(momentKey, .string text)]
  | .array _ items => .ok (fields.zip items)
  | value => .error ⟨value.found, expected⟩

end Value

end RuleLexer.Toml
