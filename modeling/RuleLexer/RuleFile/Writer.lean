import RuleLexer.Definition
import RuleLexer.Toml.Key

/-!
# Writing rule files

A definition is written as a document in blocks with an empty line between any two: the general
part; a table of the states without rules, if there are any or if there are no states at all; and a
table for every rule of the other states. All fields of the general part are written, and of a rule
those that are there.
-/

namespace RuleLexer.RuleFile

open Toml

/-- A line that gives a written value to a name. -/
def assignmentLine (name : String) (value : List Char) : List Char :=
  name.toList ++ " = ".toList ++ value ++ ['\n']

/-- A written list of strings: on one line if there is at most one, and otherwise with a line for
each. -/
def writeStrings (texts : List String) : List Char :=
  match texts with
  | [] => "[]".toList
  | [text] => '[' :: StringForm.writeValue text ++ [']']
  | _ =>
    "[\n".toList ++
      texts.flatMap (fun text =>
        "    ".toList ++ StringForm.writeValue text ++ ",\n".toList) ++ [']']

/-- The block of the general part. -/
def headerBlock (header : Header) : List Char :=
  "[lexer]\n".toList ++
    assignmentLine "name" (StringForm.writeValue header.name) ++
    assignmentLine "aliases" (writeStrings header.aliases) ++
    assignmentLine "filenames" (writeStrings header.filenames) ++
    assignmentLine "entry" (StringForm.writeValue header.entry) ++
    assignmentLine "fallback" (StringForm.writeValue header.fallback.name)

/-- A line for a field that may be missing. -/
def optionalLine (name : String) (value : Option String) : List Char :=
  match value with
  | some text => assignmentLine name (StringForm.writeValue text)
  | none => []

def ruleBlock (state : String) (rule : RuleDef) : List Char :=
  "[[states.".toList ++ Key.writeName state ++ "]]\n".toList ++
    assignmentLine "pattern" (StringForm.writeValue rule.pattern) ++
    assignmentLine "category" (StringForm.writeValue rule.category.name) ++
    assignmentLine "consumes" (toString rule.consumes).toList ++
    optionalLine "next" rule.next ++
    optionalLine "lookbehind" rule.lookbehind

def emptyStatesBlock (states : List String) : List Char :=
  "[states]\n".toList ++ states.flatMap fun state => Key.writeName state ++ " = []\n".toList

/-- The states without rules, in order. -/
def emptyStates (definition : Definition) : List String :=
  (definition.states.entries.filter (·.2.isEmpty)).map Prod.fst

/-- The blocks of a definition, in order. -/
def blocks (definition : Definition) : List (List Char) :=
  let empty := emptyStates definition
  [headerBlock definition.header] ++
    (if definition.states.entries.isEmpty || !empty.isEmpty then [emptyStatesBlock empty]
      else []) ++
    definition.states.entries.flatMap fun entry => entry.2.map (ruleBlock entry.1)

/-- The rule file of a definition. -/
def write (definition : Definition) : String :=
  String.ofList ((blocks definition).intersperse ['\n']).flatten

end RuleLexer.RuleFile
