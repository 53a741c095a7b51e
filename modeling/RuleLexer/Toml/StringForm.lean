/-!
# Written strings

A string is written between quotes. There are four forms: with double quotes, where a backslash
begins an escape, or with single quotes, where every character stands for itself; and in each case
on one line, or between triple quotes on several lines. This module says how each form is read and
how it is written.

Reading a body between triple quotes counts the quotes that it meets: one or two belong to the text,
three close it, and of up to two more the text gets what exceeds three.
-/

namespace RuleLexer.Toml

/-- A way to write a string. -/
structure StringForm where
  quote : Char
  /-- Whether a backslash begins an escape. -/
  escapes : Bool
  /-- Whether the quotes are triple and the text may have several lines. -/
  multiline : Bool
  deriving DecidableEq, Repr

namespace StringForm

/-- Double quotes on one line. -/
def basic : StringForm := ⟨'"', true, false⟩

/-- Single quotes on one line. -/
def literal : StringForm := ⟨'\'', false, false⟩

/-- Triple double quotes. -/
def multilineBasic : StringForm := ⟨'"', true, true⟩

/-- Triple single quotes. -/
def multilineLiteral : StringForm := ⟨'\'', false, true⟩

/-- Whether a character is a control character of ASCII. -/
def isControl (char : Char) : Bool :=
  char.toNat < 0x20 || char.toNat == 0x7F

/-- Whether a character other than quotes and backslashes may stand in the text as it is. -/
def admits (form : StringForm) (char : Char) : Bool :=
  !isControl char || char == '\t' || (form.multiline && char == '\n')

/-- The character that an escape of two characters stands for. -/
def escaped? : Char → Option Char
  | 'b' => some '\x08'
  | 't' => some '\t'
  | 'n' => some '\n'
  | 'f' => some '\x0c'
  | 'r' => some '\r'
  | '"' => some '"'
  | '\\' => some '\\'
  | _ => none

/-- The value of a hexadecimal digit. -/
def hexValue? (char : Char) : Option Nat :=
  if '0' ≤ char ∧ char ≤ '9' then some (char.toNat - '0'.toNat)
  else if 'a' ≤ char ∧ char ≤ 'f' then some (char.toNat - 'a'.toNat + 10)
  else if 'A' ≤ char ∧ char ≤ 'F' then some (char.toNat - 'A'.toNat + 10)
  else none

/-- The character with a code point, if it is one. -/
def charOf? (code : Nat) : Option Char :=
  if code.isValidChar then some (Char.ofNat code) else none

/-- What has just been read of a body. -/
inductive ReadState
  /-- Some quotes in a row, none of them a part of the text so far. -/
  | text (quotes : Nat)
  | escape
  /-- A part of a code point, of which some digits are missing. -/
  | code (missing value : Nat)
  /-- A backslash and blanks, after which the line has to end. -/
  | lineEscape
  /-- The line end after a backslash; white space is left out up to the next other character. -/
  | trimming
  deriving DecidableEq, Repr

/-- Puts characters before the text that was read. -/
def prepend (chars : List Char) (result : Option (List Char × List Char)) :
    Option (List Char × List Char) :=
  result.map fun (text, rest) => (chars ++ text, rest)

/-- Reads a body from the given state on: the text and what comes after the closing quotes. -/
def readBody (form : StringForm) : ReadState → List Char → Option (List Char × List Char)
  | .text quotes, [] =>
    if 3 ≤ quotes then some (List.replicate (quotes - 3) form.quote, []) else none
  | _, [] => none
  | .escape, char :: rest =>
    if char = 'u' then readBody form (.code 4 0) rest
    else if char = 'U' then readBody form (.code 8 0) rest
    else if form.multiline && char == '\n' then readBody form .trimming rest
    else if form.multiline && (char == ' ' || char == '\t') then readBody form .lineEscape rest
    else
      match escaped? char with
      | some meant => prepend [meant] (readBody form (.text 0) rest)
      | none => none
  | .code missing value, char :: rest =>
    match hexValue? char with
    | none => none
    | some digit =>
      if missing ≤ 1 then
        match charOf? (16 * value + digit) with
        | some meant => prepend [meant] (readBody form (.text 0) rest)
        | none => none
      else readBody form (.code (missing - 1) (16 * value + digit)) rest
  | .lineEscape, char :: rest =>
    if char = ' ' ∨ char = '\t' then readBody form .lineEscape rest
    else if char = '\n' then readBody form .trimming rest
    else none
  | .trimming, char :: rest =>
    if char = ' ' ∨ char = '\t' ∨ char = '\n' then readBody form .trimming rest
    else if char = form.quote then readBody form (.text 1) rest
    else if char = '\\' then readBody form .escape rest
    else if form.admits char then prepend [char] (readBody form (.text 0) rest)
    else none
  | .text quotes, char :: rest =>
    if char = form.quote then
      if form.multiline then
        if quotes < 5 then readBody form (.text (quotes + 1)) rest else none
      else some ([], rest)
    else if 3 ≤ quotes then some (List.replicate (quotes - 3) form.quote, char :: rest)
    else
      prepend (List.replicate quotes form.quote)
        (if form.escapes && char == '\\' then readBody form .escape rest
        else if form.admits char then prepend [char] (readBody form (.text 0) rest)
        else none)

/-- Leaves out a line end right after the opening quotes. -/
def skipFirstLineEnd : List Char → List Char
  | '\n' :: rest => rest
  | text => text

/-- Reads a string from its opening quotes on, in whichever form it is written. -/
def read? : List Char → Option (String × List Char)
  | '"' :: '"' :: '"' :: rest => finish (multilineBasic.readBody (.text 0) (skipFirstLineEnd rest))
  | '\'' :: '\'' :: '\'' :: rest =>
    finish (multilineLiteral.readBody (.text 0) (skipFirstLineEnd rest))
  | '"' :: rest => finish (basic.readBody (.text 0) rest)
  | '\'' :: rest => finish (literal.readBody (.text 0) rest)
  | _ => none
where
  finish (result : Option (List Char × List Char)) : Option (String × List Char) :=
    result.map fun (text, rest) => (String.ofList text, rest)

/-- The quotes on either side. -/
def delimiter (form : StringForm) : List Char :=
  if form.multiline then [form.quote, form.quote, form.quote] else [form.quote]

/-- A hexadecimal digit, with capital letters. -/
def hexDigit (value : Nat) : Char :=
  if value < 10 then Char.ofNat ('0'.toNat + value) else Char.ofNat ('A'.toNat + (value - 10))

/-- How a character other than a quote is written in a form with escapes. -/
def escape (form : StringForm) (char : Char) : List Char :=
  if char = '\x08' then ['\\', 'b']
  else if char = '\t' then ['\\', 't']
  else if char = '\x0c' then ['\\', 'f']
  else if char = '\r' then ['\\', 'r']
  else if char = '\\' then ['\\', '\\']
  else if char = '\n' then if form.multiline then ['\n'] else ['\\', 'n']
  else if isControl char then
    ['\\', 'u', '0', '0', hexDigit (char.toNat / 16), hexDigit (char.toNat % 16)]
  else [char]

/-- Writes the body of a text in a form with escapes, after some quotes in a row. Between triple
quotes only the third quote of a row has to be escaped. -/
def writeEscaped (form : StringForm) (quotes : Nat) : List Char → List Char
  | [] => []
  | char :: rest =>
    if char = form.quote then
      if form.multiline && decide (quotes < 2) then char :: writeEscaped form (quotes + 1) rest
      else '\\' :: char :: writeEscaped form 0 rest
    else escape form char ++ writeEscaped form 0 rest

/-- Writes a text between its quotes. A text of several lines starts on a line of its own. -/
def write (form : StringForm) (text : List Char) : List Char :=
  let body := if form.escapes then form.writeEscaped 0 text else text
  let start := if form.multiline && text.contains '\n' then ['\n'] else []
  form.delimiter ++ start ++ body ++ form.delimiter

/-- The length of the longest run of a character, given the length of a run before the text. -/
def longestRun (char : Char) (current : Nat) : List Char → Nat
  | [] => current
  | first :: rest =>
    if first = char then longestRun char (current + 1) rest
    else max current (longestRun char 0 rest)

/-- The form for a value: on one line and without escapes where possible. -/
def forValue (text : List Char) : StringForm :=
  let hasControl := text.any fun char => isControl char && char != '\t' && char != '\n'
  let hasLineEnd := text.contains '\n'
  let hasBackslash := text.contains '\\'
  let singleQuotes := longestRun '\'' 0 text
  let doubleQuotes := longestRun '"' 0 text
  if !hasControl && !hasBackslash && doubleQuotes == 0 && !hasLineEnd then basic
  else if !hasControl && singleQuotes == 0 && !hasLineEnd then literal
  else if !hasControl && !hasBackslash && decide (doubleQuotes ≤ 2) then multilineBasic
  else if !hasControl && decide (singleQuotes ≤ 2) then multilineLiteral
  else if hasLineEnd then multilineBasic
  else basic

/-- The form for a key that needs quotes; keys are written on one line. -/
def forKey (text : List Char) : StringForm :=
  let hasControl := text.any fun char => isControl char && char != '\t'
  let hasBackslash := text.contains '\\'
  if !hasControl && !hasBackslash && !text.contains '"' then basic
  else if !hasControl && !text.contains '\'' then literal
  else basic

def writeValue (text : String) : List Char :=
  (forValue text.toList).write text.toList

end StringForm

end RuleLexer.Toml
