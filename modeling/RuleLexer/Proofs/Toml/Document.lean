import RuleLexer.Proofs.Toml.Value
import RuleLexer.Toml.Document

/-!
# Written documents are read back

A written document is a sequence of lines, each of which is read as one statement whatever follows
it, with empty lines in between. Such a document is read as the statements of its lines, and its
sections are those that were written.
-/

namespace RuleLexer.Toml

open StringForm

namespace Statement

/-- The line is read as the statement, whatever follows it. -/
structure IsLine (line : List Char) (statement : Statement) : Prop where
  read : ∀ rest, read? (line ++ rest) = some (statement, rest)
  solid : StartsSolid line
  noReturn : '\r' ∉ line

/-- A text that consists of lines with these statements and of empty lines. -/
inductive Lines : List Char → List Statement → Prop
  | nil : Lines [] []
  | blank {text : List Char} {statements : List Statement} (later : Lines text statements) :
      Lines ('\n' :: text) statements
  | line {line text : List Char} {statement : Statement} {statements : List Statement}
      (isLine : IsLine line statement) (later : Lines text statements) :
      Lines (line ++ text) (statement :: statements)

variable {line text value rest : List Char} {statement : Statement} {statements : List Statement}
  {name : String}

theorem Lines.append {other : List Char} {others : List Statement} (lines : Lines text statements)
    (more : Lines other others) : Lines (text ++ other) (statements ++ others) := by
  induction lines with
  | nil => exact more
  | blank later ih => exact Lines.blank ih
  | line isLine later ih =>
      rw [List.append_assoc, List.cons_append]
      exact Lines.line isLine ih

theorem Lines.noReturn (lines : Lines text statements) : '\r' ∉ text := by
  induction lines with
  | nil => simp
  | blank later ih => simpa using ih
  | line isLine later ih => simpa using ⟨isLine.noReturn, ih⟩

theorem IsLine.lines (isLine : IsLine line statement) : Lines line [statement] := by
  simpa using Lines.line isLine Lines.nil

theorem readAll?_blank (fuel : Nat) (text : List Char) :
    readAll? fuel ('\n' :: text) = readAll? fuel text := by
  cases fuel with
  | zero => rfl
  | succ fuel => simp [readAll?, skipGaps?]

theorem readAll?_of_lines {fuel : Nat} (lines : Lines text statements)
    (enough : text.length < fuel) : readAll? fuel text = some statements := by
  induction lines generalizing fuel with
  | nil =>
      rcases Nat.exists_eq_succ_of_ne_zero (Nat.ne_of_gt enough) with ⟨fuel, rfl⟩
      rfl
  | blank later ih =>
      rw [readAll?_blank]
      exact ih (Nat.lt_of_succ_lt enough)
  | line isLine later ih =>
      rename_i line text statement statements
      rcases Nat.exists_eq_succ_of_ne_zero (Nat.ne_of_gt (Nat.zero_lt_of_lt enough)) with
        ⟨fuel, rfl⟩
      have solid := isLine.solid.append text
      rcases isLine.solid with ⟨first, tail, line_eq, -⟩
      have later_enough : text.length < fuel := by
        simp only [line_eq, List.length_append, List.length_cons] at enough
        omega
      have nonempty : line ≠ [] := by simp [line_eq]
      simp [readAll?, skipGaps?_of_startsSolid solid, nonempty, isLine.read text, ih later_enough]

/-- What begins a written name begins neither a gap nor a header. -/
theorem head_writeName_cases (name : String) :
    ∃ first tail, Key.writeName name = first :: tail ∧ isBlank first = false ∧ first ≠ '\n' ∧
      first ≠ '#' ∧ first ≠ '[' := by
  rcases Key.head_writeName name with ⟨first, tail, written, starts⟩
  refine ⟨first, tail, written, ?_⟩
  rcases starts with rfl | rfl | bare
  · decide
  · decide
  · have noBare : ∀ char, Key.isBareChar char = false → first ≠ char := by
      rintro char noBare rfl
      simp [noBare] at bare
    refine ⟨?_, noBare '\n' (by decide), noBare '#' (by decide), noBare '[' (by decide)⟩
    have noSpace := noBare ' ' (by decide)
    have noTab := noBare '\t' (by decide)
    simp [isBlank, noSpace, noTab]

theorem closes_bracket (rest : List Char) : Key.Closes (']' :: rest) := by
  constructor
  · intro char mem
    cases mem
    decide
  · intro tail
    simp [skipBlanks, isBlank]

theorem closes_equals (rest : List Char) : Key.Closes (' ' :: '=' :: rest) := by
  constructor
  · intro char mem
    cases mem
    decide
  · intro tail
    simp [skipBlanks, isBlank]

theorem isLine_table (name : String) :
    IsLine ('[' :: (Key.writeName name ++ [']', '\n'])) (.table [] name) := by
  refine ⟨?_, ⟨'[', _, rfl, by decide⟩, ?_⟩
  · intro rest
    have key := Key.read?_name name (closes_bracket ('\n' :: rest))
    rcases head_writeName_cases name with ⟨first, tail, written, -, -, -, noBracket⟩
    rw [written, List.cons_append] at key
    rw [written]
    simp only [List.cons_append, List.append_assoc, List.nil_append]
    unfold read?
    split
    · rename_i same
      cases same
      exact absurd rfl noBracket
    · rename_i same
      cases same
      rw [key]
      rfl
    · rename_i other
      exact absurd rfl (other _)
  · simpa using Key.return_not_mem_writeName name

theorem isLine_element (first second : String) :
    IsLine ('[' :: '[' :: (Key.writeName first ++
        '.' :: (Key.writeName second ++ [']', ']', '\n'])))
      (.element [first] second) := by
  refine ⟨?_, ⟨'[', _, rfl, by decide⟩, ?_⟩
  · intro rest
    have key := Key.read?_pair first second (closes_bracket (']' :: '\n' :: rest))
    simp only [List.cons_append, List.append_assoc, List.nil_append, read?, key]
    rfl
  · simpa using
      ⟨Key.return_not_mem_writeName first, Key.return_not_mem_writeName second⟩

/-- An assignment with a value that is read back on the same line. -/
theorem isLine_assign (name : String) {meant : Value} (noReturn : '\r' ∉ value)
    (solid : StartsSolid value)
    (read : ∀ rest, readValue? maxDepth (value ++ '\n' :: rest) = some (meant, '\n' :: rest)) :
    IsLine (Key.writeName name ++ ([' ', '=', ' '] ++ (value ++ ['\n'])))
      (.assign ⟨[], name, meant⟩) := by
  rcases head_writeName_cases name with
    ⟨first, tail, written, noBlank, noLineEnd, noComment, noBracket⟩
  refine ⟨?_, ?_, ?_⟩
  · intro rest
    have blanks : ∀ rest, skipBlanks (' ' :: '=' :: rest) = '=' :: rest := fun _ => rfl
    have valueBlanks : skipBlanks (' ' :: (value ++ '\n' :: rest)) = value ++ '\n' :: rest := by
      rcases solid with ⟨start, later, rfl, noBlank, -⟩
      have blank : isBlank ' ' = true := rfl
      rw [List.cons_append, skipBlanks, List.dropWhile_cons_of_pos blank,
        List.dropWhile_cons_of_neg (by simp [noBlank])]
    have key := Key.read?_name name (closes_equals (' ' :: (value ++ '\n' :: rest)))
    rw [blanks] at key
    have assignment : Assignment.read? (readValue? maxDepth)
        (Key.writeName name ++ ' ' :: '=' :: ' ' :: (value ++ '\n' :: rest)) =
          some (⟨[], name, meant⟩, '\n' :: rest) := by
      simp only [Assignment.read?, key, Option.bind_eq_bind, Option.bind_some]
      have equals : skipBlanks ('=' :: ' ' :: (value ++ '\n' :: rest)) =
        '=' :: ' ' :: (value ++ '\n' :: rest) := rfl
      simp only [equals, valueBlanks, read, Option.bind_some]
    rw [written] at assignment ⊢
    simp only [List.cons_append, List.append_assoc, List.nil_append] at assignment ⊢
    unfold read?
    split
    · rename_i same
      exact absurd (List.cons.inj same).1 noBracket
    · rename_i same
      exact absurd (List.cons.inj same).1 noBracket
    · rw [assignment]
      rfl
  · exact (StartsSolid.append ⟨first, tail, written, noBlank, noLineEnd, noComment⟩ _)
  · have noReturnName := Key.return_not_mem_writeName name
    simp [noReturnName, noReturn]

end Statement

namespace DocumentSection

def header (part : DocumentSection) : Statement :=
  match part.kind with
  | .table => .table part.path part.key
  | .element => .element part.path part.key

def statements (part : DocumentSection) : List Statement :=
  part.header :: part.body.map .assign

end DocumentSection

theorem sections_assignments (body : List Assignment) (rest : List Statement) :
    sections (body.map .assign ++ rest) = (body ++ (sections rest).1, (sections rest).2) := by
  induction body with
  | nil => rfl
  | cons assignment body ih =>
      rw [List.map_cons, List.cons_append, sections, ih]
      rfl

/-- The sections of a document are those whose statements were written. -/
theorem sections_statements (parts : List DocumentSection) :
    sections (parts.flatMap DocumentSection.statements) = ([], parts) := by
  induction parts with
  | nil => rfl
  | cons part parts ih =>
      rcases part with ⟨kind, path, key, body⟩
      have later := sections_assignments body (parts.flatMap DocumentSection.statements)
      rw [ih, List.append_nil] at later
      rw [List.flatMap_cons, DocumentSection.statements, List.cons_append]
      cases kind with
      | table =>
          simp only [DocumentSection.header, sections]
          rw [later]
      | element =>
          simp only [DocumentSection.header, sections]
          rw [later]

theorem unifyLineEnds?_of_noReturn {text : List Char} (noReturn : '\r' ∉ text) :
    unifyLineEnds? text = some text := by
  induction text with
  | nil => rfl
  | cons char text ih =>
      rw [List.mem_cons, not_or] at noReturn
      have char_ne : char ≠ '\r' := Ne.symm noReturn.1
      rw [unifyLineEnds?, if_neg char_ne, ih noReturn.2]
      · rfl
      · exact fun _ isReturn => absurd isReturn char_ne

/-- A written document is read by adding its sections one after another. -/
theorem read?_of_lines {text : List Char} {parts : List DocumentSection}
    (noMark : text.head? ≠ some '\ufeff')
    (lines : Statement.Lines text (parts.flatMap DocumentSection.statements)) :
    read? (String.ofList text) = DocumentSection.addAll? [] parts := by
  have unmarked : skipMark text = text := by
    unfold skipMark
    split
    · simp at noMark
    · rfl
  have unified := unifyLineEnds?_of_noReturn lines.noReturn
  have statements := Statement.readAll?_of_lines lines (Nat.lt_succ_self text.length)
  simp only [read?, String.toList_ofList, unmarked, unified, statements, Option.bind_eq_bind,
    Option.bind_some, sections_statements, Assignment.applyAll?]

end RuleLexer.Toml
