import RuleLexer.Toml.Reader

/-!
# Documents

A document is a sequence of lines: assignments and headers. The assignments before the first header
belong to the table at the top, the others to the table of the header before them. A header in
single brackets names a table that has had no header yet; a header in double brackets adds a table
to an array. A text that is no document has no further description.
-/

namespace RuleLexer.Toml

/-- A line of a document. -/
inductive Statement
  | assign (assignment : Assignment)
  | table (path : List String) (key : String)
  /-- A header of a further table of an array. -/
  | element (path : List String) (key : String)
  deriving Repr, Inhabited

namespace Statement

/-- Leaves out the rest of a line: blanks, possibly a comment, and the line end. -/
def endLine? (text : List Char) : Option (List Char) :=
  let rest :=
    match skipBlanks text with
    | '#' :: rest => rest.dropWhile isCommentChar
    | rest => rest
  match rest with
  | [] => some []
  | '\n' :: rest => some rest
  | _ => none

/-- Reads a statement and the rest of its line. -/
def read? (text : List Char) : Option (Statement × List Char) := do
  match text with
  | '[' :: '[' :: rest =>
    let (path, key, rest) ← Key.read? rest
    let ']' :: ']' :: rest := rest | none
    let rest ← endLine? rest
    some (.element path key, rest)
  | '[' :: rest =>
    let (path, key, rest) ← Key.read? rest
    let ']' :: rest := rest | none
    let rest ← endLine? rest
    some (.table path key, rest)
  | _ =>
    let (assignment, rest) ← Assignment.read? (readValue? maxDepth) text
    let rest ← endLine? rest
    some (.assign assignment, rest)

/-- Reads the statements of a text; lines without a statement are left out. -/
def readAll? : Nat → List Char → Option (List Statement)
  | 0, _ => none
  | fuel + 1, text => do
    let text ← skipGaps? false text
    if text.isEmpty then some []
    else
      let (statement, rest) ← read? text
      let statements ← readAll? fuel rest
      some (statement :: statements)

end Statement

/-- What a section of a document is. -/
inductive SectionKind
  | table
  /-- A further table of an array. -/
  | element
  deriving DecidableEq, Repr

/-- A header with the assignments after it. -/
structure DocumentSection where
  kind : SectionKind
  /-- The names of the header before the last one. -/
  path : List String
  key : String
  body : List Assignment
  deriving Repr

/-- Splits statements into the assignments before the first header and the sections. -/
def sections : List Statement → List Assignment × List DocumentSection
  | [] => ([], [])
  | .assign assignment :: rest =>
    let (body, later) := sections rest
    (assignment :: body, later)
  | .table path key :: rest =>
    let (body, later) := sections rest
    ([], ⟨.table, path, key, body⟩ :: later)
  | .element path key :: rest =>
    let (body, later) := sections rest
    ([], ⟨.element, path, key, body⟩ :: later)

namespace DocumentSection

/-- Adds a table with a header to the table around it. A table that was only implied so far keeps
its entries and moves to the end. -/
def addTable? (around : Entries) (key : String) (body : List Assignment) : Option Entries :=
  match around.lookup key with
  | none => do
    let entries ← Assignment.applyAll? [] body
    some (around ++ [(key, .table .headed entries)])
  | some (.table .implied present) => do
    let entries ← Assignment.applyAll? present body
    some (around.filter (·.1 != key) ++ [(key, .table .headed entries)])
  | some _ => none

/-- Adds a further table to an array of the table around it. -/
def addElement? (around : Entries) (key : String) (body : List Assignment) : Option Entries :=
  match around.lookup key with
  | none => do
    let entries ← Assignment.applyAll? [] body
    some (around ++ [(key, .array .headed [.table .headed entries])])
  | some (.array .headed items) => do
    let entries ← Assignment.applyAll? [] body
    some (around.set key (.array .headed (items ++ [.table .headed entries])))
  | some _ => none

/-- Adds a section to the table at the top of a document. -/
def add? (part : DocumentSection) (top : Entries) : Option Entries :=
  Entries.change? .implied
    (fun _ around =>
      match part.kind with
      | .table => addTable? around part.key part.body
      | .element => addElement? around part.key part.body)
    part.path .headed top

/-- Adds sections, one after another. -/
def addAll? (top : Entries) : List DocumentSection → Option Entries
  | [] => some top
  | part :: rest => do
    let top ← part.add? top
    addAll? top rest

end DocumentSection

/-- Makes every line end a single line feed; fails at a carriage return without one. -/
def unifyLineEnds? : List Char → Option (List Char)
  | [] => some []
  | '\r' :: '\n' :: rest => (unifyLineEnds? rest).map ('\n' :: ·)
  | char :: rest => if char = '\r' then none else (unifyLineEnds? rest).map (char :: ·)

/-- Leaves out a byte order mark at the start. -/
def skipMark : List Char → List Char
  | '\ufeff' :: rest => rest
  | text => text

/-- The table at the top of a document, or nothing if the text is no document. -/
def read? (text : String) : Option Entries := do
  let text ← unifyLineEnds? (skipMark text.toList)
  let statements ← Statement.readAll? (text.length + 1) text
  let (body, later) := sections statements
  let top ← Assignment.applyAll? [] body
  DocumentSection.addAll? top later

end RuleLexer.Toml
