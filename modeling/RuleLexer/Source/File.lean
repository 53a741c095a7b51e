import RuleLexer.Text.Quoted
import RuleLexer.Text.Utf8
import RuleLexer.Token

/-!
# Source files

A source file is a named text with an index of its line starts. An offset in bytes becomes a line
and a column, both counted from one; columns count characters. A span becomes the text under it,
provided that it lies in the text and does not cut a character.
-/

namespace RuleLexer

/-- The position of a file among the files of a run. -/
structure FileId where
  index : Nat
  deriving DecidableEq, Repr, Inhabited

namespace FileId

def describe (id : FileId) : String :=
  "FileId(" ++ toString id.index ++ ")"

end FileId

/-- Where a line begins. -/
structure LineStart where
  /-- Offset of the first byte of the line. -/
  offset : Nat
  /-- The text from there to the end of the file. -/
  text : List Char
  deriving DecidableEq, Repr

namespace LineStart

/-- The starts of the lines after the first one, for a text that begins at an offset. -/
def following (offset : Nat) : List Char → List LineStart
  | [] => []
  | char :: rest =>
    if char = '\n' then ⟨offset + 1, rest⟩ :: following (offset + 1) rest
    else following (offset + char.utf8Size) rest

/-- The starts of all lines of a text; there is at least one. -/
def all (text : List Char) : List LineStart :=
  ⟨0, text⟩ :: following 0 text

end LineStart

/-- Why a file or a part of it is not found. -/
inductive SourceError
  | fileNotFound (id : FileId)
  | invalidSpan (span : Span)
  | spanOutOfBounds (span : Span) (length : Nat)
  | notCharBoundary (span : Span)
  deriving DecidableEq, Repr

namespace SourceError

/-- How a message refers to a span. -/
def describeSpan (span : Span) : String :=
  toString span.start ++ ".." ++ toString span.stop

def message : SourceError → String
  | fileNotFound id => "no source file registered as " ++ id.describe
  | invalidSpan span => "invalid span " ++ describeSpan span
  | spanOutOfBounds span length =>
    "span " ++ describeSpan span ++ " is out of bounds for " ++ toString length ++ " bytes"
  | notCharBoundary span => "span " ++ describeSpan span ++ " is not on character boundaries"

end SourceError

/-- A text with its name and its line starts. -/
structure SourceFile where
  id : FileId
  name : String
  /-- The text. -/
  text : List Char
  length : Nat
  lineStarts : Array LineStart
  length_eq : length = Text.byteLength text
  lineStarts_eq : lineStarts = (LineStart.all text).toArray
  deriving DecidableEq, Repr

namespace SourceFile

def ofText (id : FileId) (name content : String) : SourceFile where
  id
  name
  text := content.toList
  length := Text.byteLength content.toList
  lineStarts := (LineStart.all content.toList).toArray
  length_eq := rfl
  lineStarts_eq := rfl

/-- The text as a string. -/
def content (file : SourceFile) : String :=
  String.ofList file.text

/-- The number of lines; an empty file has one. -/
def lineCount (file : SourceFile) : Nat :=
  file.lineStarts.size

/-- The number of line starts that are not after an offset, if it lies between the two bounds:
halves the range until it is empty. -/
def countStarts (file : SourceFile) (offset low high : Nat) : Nat :=
  if _nonempty : low < high then
    let middle := (low + high) / 2
    match file.lineStarts[middle]? with
    | some start =>
      if start.offset ≤ offset then file.countStarts offset (middle + 1) high
      else file.countStarts offset low middle
    | none => file.countStarts offset low middle
  else low
termination_by high - low

/-- Line and column of an offset, both from one. An offset after the end counts as the end; inside a
character, the column counts bytes instead of characters. -/
def lineColumn (file : SourceFile) (offset : Nat) : Nat × Nat :=
  let offset := min offset file.length
  let line := file.countStarts offset 0 file.lineCount - 1
  let start := file.lineStarts.getD line ⟨0, file.text⟩
  let column :=
    match Text.before? (offset - start.offset) start.text with
    | some before => before.length
    | none => offset - start.offset
  (line + 1, column + 1)

/-- The text under a span. -/
def slice (file : SourceFile) (span : Span) : Except SourceError String :=
  if span.stop < span.start then .error (.invalidSpan span)
  else if file.length < span.stop then .error (.spanOutOfBounds span file.length)
  else
    match Text.slice? span.start span.stop file.text with
    | some part => .ok (String.ofList part)
    | none => .error (.notCharBoundary span)

/-- The file on one line: its identifier, its name and the number of its lines. -/
def describe (file : SourceFile) : String :=
  "SourceFile \x7b id: " ++ file.id.describe ++ ", name: " ++ Text.quoted file.name ++
    ", lines: " ++ toString file.lineCount ++ " \x7d"

end SourceFile

end RuleLexer
