import RuleLexer.Proofs.Toml.Sections
import RuleLexer.RuleFile.Writer

/-!
# The blocks of a written rule file

What each block of a written rule file says as a section of a document: the general part, the states
without rules, and the rules of the other states. The lines of a block are read as the statements of
its section.
-/

namespace RuleLexer.RuleFile

open Toml StringForm
open Statement (IsLine Lines)

variable {text rest value : List Char} {meant : Value} {name : String}

/-- A list of strings as a value. -/
def stringsValue (texts : List String) : Value :=
  .array .inline (texts.map .string)

/-- The line of a string in a list of several. -/
def itemLine (text : String) : List Char :=
  "    ".toList ++ writeValue text ++ ",\n".toList

theorem isGap_lineStart : IsGap ['\n', ' ', ' ', ' ', ' '] := by
  simp [IsGap, isBlank]

theorem itemLine_append (text : String) (rest : List Char) :
    itemLine text ++ rest = [' ', ' ', ' ', ' '] ++ (writeValue text ++ ',' :: '\n' :: rest) := by
  simp [itemLine]

/-- The items of a list of several strings, from the line end before the first of them on. -/
theorem readItems?_itemLines (depth : Nat) (texts : List String) (rest : List Char) {fuel : Nat}
    (enough : (texts.flatMap itemLine).length < fuel) :
    readItems? (readValue? depth) fuel ('\n' :: (texts.flatMap itemLine ++ ']' :: rest)) =
      some (texts.map .string, rest) := by
  induction texts generalizing fuel with
  | nil =>
      rcases Nat.exists_eq_succ_of_ne_zero (Nat.ne_of_gt enough) with ⟨fuel, rfl⟩
      have lineEnd : IsGap ['\n'] := by simp [IsGap]
      exact readItems?_close lineEnd rest
  | cons text texts ih =>
      rcases Nat.exists_eq_succ_of_ne_zero (Nat.ne_of_gt (Nat.zero_lt_of_lt enough)) with
        ⟨fuel, rfl⟩
      rw [List.flatMap_cons, itemLine_append] at enough
      rw [List.flatMap_cons, List.append_assoc, itemLine_append]
      have later : (texts.flatMap itemLine).length < fuel := by
        simp only [List.length_append, List.length_cons] at enough
        omega
      have item := readItems?_comma depth fuel isGap_lineStart text
        ('\n' :: (texts.flatMap itemLine ++ ']' :: rest))
      rw [ih later] at item
      exact item

theorem readValue?_bracket (text : List Char) :
    readValue? maxDepth ('[' :: text) =
      (readItems? (readValue? 78) (text.length + 1) text).map fun (items, rest) =>
        (.array .inline items, rest) := rfl

/-- A written list of strings is read back. -/
theorem readValue?_writeStrings (texts : List String) (rest : List Char) :
    readValue? maxDepth (writeStrings texts ++ '\n' :: rest) =
      some (stringsValue texts, '\n' :: rest) := by
  have noGap : IsGap [] := by simp [IsGap]
  rcases texts with _ | ⟨first, _ | ⟨second, texts⟩⟩
  · change readValue? maxDepth ('[' :: ([] ++ ']' :: '\n' :: rest)) = _
    rw [readValue?_bracket, readItems?_close noGap]
    rfl
  · have whole : writeStrings [first] ++ '\n' :: rest =
        '[' :: ([] ++ (writeValue first ++ ']' :: '\n' :: rest)) := by
      simp [writeStrings]
    rw [whole, readValue?_bracket, readItems?_last 78 _ noGap]
    rfl
  · have whole : writeStrings (first :: second :: texts) ++ '\n' :: rest =
        '[' :: '\n' :: ((first :: second :: texts).flatMap itemLine ++ ']' :: '\n' :: rest) := by
      simp only [writeStrings, List.append_assoc]
      rfl
    rw [whole, readValue?_bracket, readItems?_itemLines]
    · rfl
    · simp only [List.length_cons, List.length_append]
      omega

theorem isLine_of_read (noReturn : '\r' ∉ value) (solid : StartsSolid value)
    (bare : Key.writeName name = name.toList)
    (read : ∀ rest, readValue? maxDepth (value ++ '\n' :: rest) = some (meant, '\n' :: rest)) :
    IsLine (assignmentLine name value) (.assign (.plain (name, meant))) := by
  have line := Statement.isLine_assign name noReturn solid read
  rw [bare] at line
  have shape : assignmentLine name value =
      name.toList ++ ([' ', '=', ' '] ++ (value ++ ['\n'])) := by
    simp [assignmentLine]
  rw [shape]
  exact line

theorem isLine_string (name text : String) (bare : Key.writeName name = name.toList) :
    IsLine (assignmentLine name (writeValue text)) (.assign (.plain (name, .string text))) :=
  isLine_of_read (return_not_mem_writeValue text) (startsSolid_writeValue text) bare
    fun rest => readValue?_writeValue maxDepth text (noQuote_lineEnd rest)

theorem isLine_boolean (name : String) (truth : Bool) (bare : Key.writeName name = name.toList) :
    IsLine (assignmentLine name (toString truth).toList)
      (.assign (.plain (name, .boolean truth))) := by
  refine isLine_of_read ?_ ?_ bare (readValue?_boolean maxDepth truth)
  · cases truth <;> decide
  · cases truth with
    | false => exact ⟨'f', _, rfl, by decide⟩
    | true => exact ⟨'t', _, rfl, by decide⟩

theorem head_writeStrings (texts : List String) : ∃ tail, writeStrings texts = '[' :: tail := by
  rcases texts with _ | ⟨first, _ | ⟨second, texts⟩⟩ <;> exact ⟨_, rfl⟩

theorem return_not_mem_writeStrings (texts : List String) : '\r' ∉ writeStrings texts := by
  rcases texts with _ | ⟨first, _ | ⟨second, texts⟩⟩
  · decide
  · simp [writeStrings, return_not_mem_writeValue]
  · simp [writeStrings, return_not_mem_writeValue]

theorem isLine_strings (name : String) (texts : List String)
    (bare : Key.writeName name = name.toList) :
    IsLine (assignmentLine name (writeStrings texts))
      (.assign (.plain (name, stringsValue texts))) := by
  rcases head_writeStrings texts with ⟨tail, written⟩
  exact isLine_of_read (return_not_mem_writeStrings texts) ⟨'[', tail, written, by decide⟩ bare
    (readValue?_writeStrings texts)

/-- The entry of a field that may be missing. -/
def optionalEntry (name : String) (text? : Option String) : Entries :=
  text?.toList.map fun text => (name, .string text)

theorem lines_optional (name : String) (text? : Option String)
    (bare : Key.writeName name = name.toList) :
    Lines (optionalLine name text?)
      (((optionalEntry name text?).map .plain).map .assign) := by
  cases text? with
  | none => exact Lines.nil
  | some text => exact (isLine_string name text bare).lines

/-- The entries of the general part. -/
def headerEntries (header : Header) : Entries :=
  [("name", .string header.name), ("aliases", stringsValue header.aliases),
   ("filenames", stringsValue header.filenames), ("entry", .string header.entry),
   ("fallback", .string header.fallback.name)]

def ruleEntries (rule : RuleDef) : Entries :=
  [("pattern", .string rule.pattern), ("category", .string rule.category.name),
   ("consumes", .boolean rule.consumes)] ++ optionalEntry "next" rule.next ++
    optionalEntry "lookbehind" rule.lookbehind

/-- The entries of the states without rules. -/
def emptyEntries (states : List String) : Entries :=
  states.map fun state => (state, stringsValue [])

/-- The lines of a block are the statements of the section. -/
def Renders (block : List Char) (part : DocumentSection) : Prop :=
  Lines block part.statements

theorem renders_headerBlock (header : Header) :
    Renders (headerBlock header) (.tablePart "lexer" (headerEntries header)) := by
  have top : Lines "[lexer]\n".toList [.table [] "lexer"] := (Statement.isLine_table "lexer").lines
  have name := isLine_string "name" header.name rfl
  have aliases := isLine_strings "aliases" header.aliases rfl
  have filenames := isLine_strings "filenames" header.filenames rfl
  have entry := isLine_string "entry" header.entry rfl
  have fallback := isLine_string "fallback" header.fallback.name rfl
  exact ((((top.append name.lines).append aliases.lines).append filenames.lines).append
    entry.lines).append fallback.lines

/-- The header of the block of a rule. -/
theorem lines_ruleHeader (state : String) :
    Lines ("[[states.".toList ++ Key.writeName state ++ "]]\n".toList)
      [.element ["states"] state] := by
  have shape : "[[states.".toList ++ Key.writeName state ++ "]]\n".toList =
      '[' :: '[' :: (Key.writeName "states" ++
        '.' :: (Key.writeName state ++ [']', ']', '\n'])) := by
    have bare : Key.writeName "states" = "states".toList := rfl
    simp only [bare, List.append_assoc]
    rfl
  rw [shape]
  exact (Statement.isLine_element "states" state).lines

theorem renders_ruleBlock (state : String) (rule : RuleDef) :
    Renders (ruleBlock state rule) (.elementPart "states" state (ruleEntries rule)) := by
  have pattern := isLine_string "pattern" rule.pattern rfl
  have category := isLine_string "category" rule.category.name rfl
  have consumes := isLine_boolean "consumes" rule.consumes rfl
  have next := lines_optional "next" rule.next rfl
  have lookbehind := lines_optional "lookbehind" rule.lookbehind rfl
  have lines := (((((lines_ruleHeader state).append pattern.lines).append category.lines).append
    consumes.lines).append next).append lookbehind
  rw [Renders, DocumentSection.statements, DocumentSection.elementPart, ruleEntries]
  simp only [List.map_append]
  exact lines

theorem isLine_emptyState (state : String) :
    IsLine (Key.writeName state ++ " = []\n".toList)
      (.assign (.plain (state, stringsValue []))) :=
  Statement.isLine_assign state (return_not_mem_writeStrings []) ⟨'[', [']'], rfl, by decide⟩
    (readValue?_writeStrings [])

theorem renders_emptyStatesBlock (states : List String) :
    Renders (emptyStatesBlock states) (.tablePart "states" (emptyEntries states)) := by
  have top : Lines "[states]\n".toList [.table [] "states"] :=
    (Statement.isLine_table "states").lines
  refine top.append ?_
  induction states with
  | nil => exact Lines.nil
  | cons state states ih => exact Lines.line (isLine_emptyState state) ih

section Blocks

variable {blocks : List (List Char)} {parts : List DocumentSection}

/-- Blocks with empty lines between them have the lines of their sections. -/
theorem lines_intersperse
    (renders : List.Forall₂ Renders blocks parts) :
    Lines ((blocks.intersperse ['\n']).flatten) (parts.flatMap DocumentSection.statements) := by
  induction renders with
  | nil => exact Lines.nil
  | cons first later ih =>
      cases later with
      | nil => simpa [Renders] using first
      | cons second rest => exact Lines.append first (Lines.blank ih)

/-- A text that begins with a bracket does not begin with a byte order mark. -/
theorem head?_flatten_ne (begins : ∀ block ∈ blocks.head?, ∃ rest, block = '[' :: rest) :
    ((blocks.intersperse ['\n']).flatten).head? ≠ some '\ufeff' := by
  rcases blocks with _ | ⟨first, _ | ⟨second, blocks⟩⟩
  · simp
  · rcases begins first rfl with ⟨rest, rfl⟩
    simp
  · rcases begins first rfl with ⟨rest, rfl⟩
    simp

/-- The sections of the blocks make the document. -/
theorem read?_blocks (begins : ∀ block ∈ blocks.head?, ∃ rest, block = '[' :: rest)
    (renders : List.Forall₂ Renders blocks parts) :
    Toml.read? (String.ofList ((blocks.intersperse ['\n']).flatten)) =
      DocumentSection.addAll? [] parts :=
  Toml.read?_of_lines (head?_flatten_ne begins) (lines_intersperse renders)

end Blocks

end RuleLexer.RuleFile
