import RuleLexer.Toml.Key
import RuleLexer.Toml.Word

/-!
# Reading values

A value is a string, a word, an array or a table between braces. Arrays and tables may contain each
other only to a certain depth. Inside an array, lines may end anywhere between items, comments are
allowed, and a comma may follow the last item; none of this holds inside braces.

The readers take the text that is left and give the rest of it. Line ends are single line feeds
here.
-/

namespace RuleLexer.Toml

/-- Whether a character may stand in a comment. -/
def isCommentChar (char : Char) : Bool :=
  !StringForm.isControl char || char == '\t'

/-- Leaves out blanks, line ends and comments; fails at a character that a comment may not have. -/
def skipGaps? : (inComment : Bool) → List Char → Option (List Char)
  | _, [] => some []
  | true, char :: rest =>
    if char = '\n' then skipGaps? false rest
    else if isCommentChar char then skipGaps? true rest
    else none
  | false, char :: rest =>
    if isBlank char || char == '\n' then skipGaps? false rest
    else if char = '#' then skipGaps? true rest
    else some (char :: rest)

abbrev ValueReader := List Char → Option (Value × List Char)

/-- Reads the items of an array and its closing bracket. -/
def readItems? (readItem : ValueReader) : Nat → List Char → Option (List Value × List Char)
  | 0, _ => none
  | fuel + 1, text => do
    let text ← skipGaps? false text
    match text with
    | ']' :: rest => some ([], rest)
    | _ =>
      let (item, text) ← readItem text
      let text ← skipGaps? false text
      match text with
      | ',' :: rest =>
        (readItems? readItem fuel rest).map fun (items, rest) => (item :: items, rest)
      | ']' :: rest => some ([item], rest)
      | _ => none

/-- A key with its value. -/
structure Assignment where
  /-- The names before the last one. -/
  path : List String
  key : String
  value : Value
  deriving Repr, Inhabited

namespace Assignment

/-- Reads a key, an equals sign and a value. -/
def read? (readValue : ValueReader) (text : List Char) : Option (Assignment × List Char) := do
  let (path, key, text) ← Key.read? text
  let '=' :: text := skipBlanks text | none
  let (value, text) ← readValue (skipBlanks text)
  some (⟨path, key, value⟩, text)

/-- Adds assignments to a table, one after another. -/
def applyAll? (entries : Entries) : List Assignment → Option Entries
  | [] => some entries
  | assignment :: rest => do
    let entries ← entries.assign? assignment.path assignment.key assignment.value
    applyAll? entries rest

end Assignment

/-- Reads the assignments of a table between braces and the closing brace; there is at least one
assignment. -/
def readPairs? (readValue : ValueReader) : Nat → List Char → Option (List Assignment × List Char)
  | 0, _ => none
  | fuel + 1, text => do
    let (assignment, text) ← Assignment.read? readValue text
    match skipBlanks text with
    | ',' :: rest =>
      (readPairs? readValue fuel rest).map fun (pairs, rest) => (assignment :: pairs, rest)
    | '\x7d' :: rest => some ([assignment], rest)
    | _ => none

/-- Reads a table after its opening brace. -/
def readInlineTable? (readValue : ValueReader) (text : List Char) : Option (Value × List Char) :=
  match skipBlanks text with
  | '\x7d' :: rest => some (.table .inline [], rest)
  | text => do
    let (pairs, rest) ← readPairs? readValue (text.length + 1) text
    let entries ← Assignment.applyAll? [] pairs
    some (.table .inline entries, rest)

/-- Reads a value in which arrays and tables are nested at most so deep. -/
def readValue? : Nat → ValueReader
  | depth, text =>
    match text with
    | '[' :: rest =>
      match depth with
      | 0 => none
      | depth + 1 =>
        (readItems? (readValue? depth) (rest.length + 1) rest).map fun (items, rest) =>
          (.array .inline items, rest)
    | '\x7b' :: rest =>
      match depth with
      | 0 => none
      | depth + 1 => readInlineTable? (readValue? depth) rest
    | '"' :: _ | '\'' :: _ =>
      (StringForm.read? text).map fun (content, rest) => (.string content, rest)
    | _ => Word.read? text

/-- How deep arrays and tables may be nested. -/
def maxDepth : Nat := 79

end RuleLexer.Toml
