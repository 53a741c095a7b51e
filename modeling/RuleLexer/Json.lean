/-!
# JSON text

The values that the commands print as JSON, and their text: one item or member a line, indented by
two spaces for each level; empty arrays and objects on one line.
-/

namespace RuleLexer

/-- A JSON value without numbers other than natural ones. -/
inductive Json
  | string (text : String)
  | number (value : Nat)
  | array (items : List Json)
  | object (members : List (String × Json))
  deriving Repr, Inhabited

namespace Json

/-- A character inside a string. -/
def escape (char : Char) : List Char :=
  match char with
  | '"' => ['\\', '"']
  | '\\' => ['\\', '\\']
  | '\x08' => ['\\', 'b']
  | '\x0c' => ['\\', 'f']
  | '\n' => ['\\', 'n']
  | '\r' => ['\\', 'r']
  | '\t' => ['\\', 't']
  | _ =>
    if char.toNat < 0x20 then
      let digits := Nat.toDigits 16 char.toNat
      ['\\', 'u'] ++ List.replicate (4 - digits.length) '0' ++ digits
    else [char]

/-- A string. -/
def quote (text : String) : String :=
  String.ofList ('"' :: text.toList.flatMap escape ++ ['"'])

/-- The start of a line at a level. -/
def lineStart (level : Nat) : String :=
  "\n" ++ String.ofList (List.replicate (2 * level) ' ')

mutual

def render (level : Nat) : Json → String
  | string text => quote text
  | number value => toString value
  | array [] => "[]"
  | array (item :: items) =>
    "[" ++ lineStart (level + 1) ++ item.render (level + 1) ++ renderItems (level + 1) items ++
      lineStart level ++ "]"
  | object [] => "\x7b\x7d"
  | object ((name, value) :: members) =>
    "\x7b" ++ lineStart (level + 1) ++ quote name ++ ": " ++ value.render (level + 1) ++
      renderMembers (level + 1) members ++ lineStart level ++ "\x7d"

/-- The text of further items at a level. -/
def renderItems (level : Nat) : List Json → String
  | [] => ""
  | item :: items => "," ++ lineStart level ++ item.render level ++ renderItems level items

/-- The text of further members at a level. -/
def renderMembers (level : Nat) : List (String × Json) → String
  | [] => ""
  | (name, value) :: members =>
    "," ++ lineStart level ++ quote name ++ ": " ++ value.render level ++
      renderMembers level members

end

/-- The text of a value. -/
def pretty (value : Json) : String :=
  value.render 0

end Json

end RuleLexer
