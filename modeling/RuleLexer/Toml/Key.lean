import RuleLexer.Toml.StringForm

/-!
# Keys

A key is a sequence of names with dots between them. A name is bare if it has only letters and
digits of ASCII, underscores and hyphens, and is written as a string on one line otherwise.
-/

namespace RuleLexer.Toml

/-- Whether a character is a space or a tab. -/
def isBlank (char : Char) : Bool :=
  char == ' ' || char == '\t'

/-- Leaves out blanks. -/
def skipBlanks (text : List Char) : List Char :=
  text.dropWhile isBlank

namespace Key

/-- Whether a character may stand in a bare name. -/
def isBareChar (char : Char) : Bool :=
  char.isAlphanum || char == '_' || char == '-'

def readName? (text : List Char) : Option (String × List Char) :=
  match text with
  | '"' :: rest =>
    (StringForm.basic.readBody (.text 0) rest).map fun (name, rest) => (String.ofList name, rest)
  | '\'' :: rest =>
    (StringForm.literal.readBody (.text 0) rest).map fun (name, rest) => (String.ofList name, rest)
  | _ =>
    match text.takeWhile isBareChar with
    | [] => none
    | name => some (String.ofList name, text.dropWhile isBareChar)

/-- Reads at most `count` names with dots between them, and blanks around each. -/
def readNames? : Nat → List Char → Option (List String × List Char)
  | 0, _ => none
  | count + 1, text =>
    match readName? (skipBlanks text) with
    | none => none
    | some (name, rest) =>
      match skipBlanks rest with
      | '.' :: rest => (readNames? count rest).map fun (names, rest) => (name :: names, rest)
      | rest => some ([name], rest)

/-- The number of names that a key may have. -/
def maxNames : Nat := 79

/-- Reads a key: the names before the last one, the last one, and what follows. -/
def read? (text : List Char) : Option (List String × String × List Char) :=
  match readNames? maxNames text with
  | some (names, rest) => names.getLast?.map fun last => (names.dropLast, last, rest)
  | none => none

def writeName (name : String) : List Char :=
  let text := name.toList
  if !text.isEmpty && text.all isBareChar then text else (StringForm.forKey text).write text

end Key

end RuleLexer.Toml
