import RuleLexer.Proofs.Command.Check
import RuleLexer.Proofs.Text.Quoted

/-!
# Reading printed tokens

What the command for tokens prints as text can be read again. Every token has one line, whatever its
text has, since a quoted text has no line feeds. A line is read from its end: the name of an input
may have tabs and colons in it, but what comes after the name has only those that separate its
parts.
-/

namespace RuleLexer

namespace Text

/-- The parts before and after the last separator. -/
def cutLast? (separator : Char) : List Char → Option (List Char × List Char)
  | [] => none
  | char :: rest =>
    match cutLast? separator rest with
    | some (before, after) => some (char :: before, after)
    | none => if char = separator then some ([], rest) else none

variable {separator : Char} {before after : List Char}

theorem cutLast?_of_not_mem (absent : separator ∉ after) : cutLast? separator after = none := by
  induction after with
  | nil => rfl
  | cons char after ih =>
      rw [List.mem_cons, not_or] at absent
      rw [cutLast?, ih absent.2]
      simp [Ne.symm absent.1]

theorem cutLast?_append (before : List Char) (absent : separator ∉ after) :
    cutLast? separator (before ++ separator :: after) = some (before, after) := by
  induction before with
  | nil => simp [cutLast?, cutLast?_of_not_mem absent]
  | cons char before ih => simp [cutLast?, ih]

end Text

open Text (quoted unquote? cutLast? cutLast?_append cutLast?_of_not_mem)

/-- What a line says of a token. -/
structure PrintedToken where
  /-- The name of the input, if the line has it. -/
  name : Option String
  line : Nat
  column : Nat
  category : Category
  text : String
  deriving DecidableEq, Repr

namespace PrintedToken

def ofRecord (name : Option String) (record : TokenRecord) : PrintedToken where
  name
  line := record.line
  column := record.column
  category := record.category
  text := record.text

def readNumber? (digits : List Char) : Option Nat :=
  if digits.all Char.isDigit then some (Nat.ofDigitChars 10 digits 0) else none

/-- Reads the place of a token, with the name of the input if there is one. -/
def readPlace? (place : List Char) : Option (Option String × Nat × Nat) := do
  let (before, column) ← cutLast? ':' place
  let column ← readNumber? column
  match cutLast? ':' before with
  | none => return (none, ← readNumber? before, column)
  | some (name, line) => return (some (String.ofList name), ← readNumber? line, column)

def read? (line : List Char) : Option PrintedToken := do
  let (before, text) ← cutLast? '\t' line
  let (place, category) ← cutLast? '\t' before
  let (name, line, column) ← readPlace? place
  let category ← Category.ofName? (String.ofList category)
  let text ← unquote? text
  return { name, line, column, category, text }

/-- Reads what was printed for some inputs, line by line. -/
def readAll? (output : String) : Option (List PrintedToken) :=
  (output.toList.splitOn '\n').dropLast.mapM read?

theorem readNumber?_toDigits (number : Nat) :
    readNumber? (Nat.toDigits 10 number) = some number := by
  have digits : ∀ char ∈ Nat.toDigits 10 number, char.isDigit = true := by
    intro char mem
    exact Nat.isDigit_of_mem_toDigits (by decide) (by decide) mem
  have value : Nat.ofDigitChars 10 (Nat.toDigits 10 number) 0 = number :=
    Nat.ofDigitChars_toDigits (by decide) (by decide)
  simp only [readNumber?, List.all_eq_true.mpr digits, if_true, value]

theorem not_mem_toDigits {char : Char} (noDigit : char.isDigit = false) (number : Nat) :
    char ∉ Nat.toDigits 10 number := by
  intro mem
  have digit := Nat.isDigit_of_mem_toDigits (by decide) (by decide) mem
  simp [digit] at noDigit

theorem not_mem_categoryName (category : Category) :
    '\t' ∉ category.name.toList ∧ '\n' ∉ category.name.toList := by
  cases category <;> decide

variable {name : Option String} {record : TokenRecord}

/-- The place of a record on its line, with the name of the input if the line has it. -/
def placeOf (name : Option String) (record : TokenRecord) : List Char :=
  (match name with
    | none => []
    | some name => name.toList ++ [':']) ++
    (Nat.toDigits 10 record.line ++ ':' :: Nat.toDigits 10 record.column)

/-- The line of a record, without the line feed at its end. -/
def lineOf (name : Option String) (record : TokenRecord) : List Char :=
  placeOf name record ++ '\t' :: (record.category.name.toList ++ '\t' :: (quoted record.text).toList)

theorem readPlace?_placeOf (name : Option String) (record : TokenRecord) :
    readPlace? (placeOf name record) = some (name, record.line, record.column) := by
  have line : ':' ∉ Nat.toDigits 10 record.line := not_mem_toDigits (by decide) record.line
  have column : ':' ∉ Nat.toDigits 10 record.column := not_mem_toDigits (by decide) record.column
  cases name with
  | none =>
      simp [readPlace?, placeOf, cutLast?_append _ column, cutLast?_of_not_mem line,
        readNumber?_toDigits]
  | some name =>
      have cut := cutLast?_append (name.toList ++ ':' :: Nat.toDigits 10 record.line) column
      simp only [List.append_assoc, List.cons_append] at cut
      simp [readPlace?, placeOf, cut, cutLast?_append _ line, readNumber?_toDigits]

theorem read?_lineOf (name : Option String) (record : TokenRecord) :
    read? (lineOf name record) = some (.ofRecord name record) := by
  have text : '\t' ∉ (quoted record.text).toList := by
    intro mem
    exact (Text.ne_of_mem_quoted mem).1 rfl
  have category := (not_mem_categoryName record.category).1
  have cut := cutLast?_append (placeOf name record ++ '\t' :: record.category.name.toList) text
  simp only [List.append_assoc, List.cons_append] at cut
  simp [read?, lineOf, cut, cutLast?_append _ category, readPlace?_placeOf,
    Category.ofName?_name, ofRecord]

theorem not_mem_lineOf (oneLine : ∀ own ∈ name, '\n' ∉ own.toList) (record : TokenRecord) :
    '\n' ∉ lineOf name record := by
  have line : '\n' ∉ Nat.toDigits 10 record.line := not_mem_toDigits (by decide) record.line
  have column : '\n' ∉ Nat.toDigits 10 record.column := not_mem_toDigits (by decide) record.column
  have category := (not_mem_categoryName record.category).2
  have text : '\n' ∉ (quoted record.text).toList := by
    intro mem
    exact (Text.ne_of_mem_quoted mem).2 rfl
  cases name with
  | none => simp [lineOf, placeOf, line, column, category, text]
  | some own =>
      have noLineFeed : '\n' ∉ own.toList := oneLine own rfl
      simp [lineOf, placeOf, noLineFeed, line, column, category, text]

theorem toList_render (named : Bool) (file : String) (record : TokenRecord) :
    ((if named then file ++ ":" else "") ++ record.render).toList =
      lineOf (if named then some file else none) record ++ ['\n'] := by
  cases named <;> simp [TokenRecord.render, lineOf, placeOf]

end PrintedToken

open PrintedToken (lineOf)

/-- The name on the lines of an answer, which is left out if there is only one answer. -/
def shownName (answers : List FileTokens) (answer : FileTokens) : Option String :=
  if 1 < answers.length then some answer.file else none

/-- What the lines for some answers say. -/
def printedTokens (answers : List FileTokens) : List PrintedToken :=
  answers.flatMap fun answer =>
    answer.tokens.map (PrintedToken.ofRecord (shownName answers answer))

/-- The lines for some answers. -/
def printedLines (answers : List FileTokens) : List (List Char) :=
  answers.flatMap fun answer => answer.tokens.map (lineOf (shownName answers answer))

section Output

variable {answers : List FileTokens}

/-- Lines that each end with a line feed are taken apart at the line feeds. -/
theorem splitOn_flatMap {lines : List (List Char)} (whole : ∀ line ∈ lines, '\n' ∉ line) :
    (lines.flatMap (· ++ ['\n'])).splitOn '\n' = lines ++ [[]] := by
  have joined (lines : List (List Char)) :
      lines.flatMap (· ++ ['\n']) = ['\n'].intercalate (lines ++ [[]]) := by
    induction lines with
    | nil => rfl
    | cons line lines ih => cases lines <;> simp_all [List.intercalate]
  rw [joined]
  apply List.splitOn_intercalate
  · intro line mem
    rcases List.mem_append.mp mem with earlier | last
    · exact whole line earlier
    · simp [List.mem_singleton.mp last]
  · simp

theorem toList_renderText (answers : List FileTokens) :
    (TokensRequest.renderText answers).toList = (printedLines answers).flatMap (· ++ ['\n']) := by
  simp only [TokensRequest.renderText, String.toList_join, printedLines, List.flatMap_assoc,
    List.flatMap_map, shownName]
  apply List.flatMap_congr
  intro answer _
  apply List.flatMap_congr
  intro record _
  simpa using PrintedToken.toList_render (decide (1 < answers.length)) answer.file record

theorem length_printedLines (answers : List FileTokens) :
    (printedLines answers).length = (answers.flatMap FileTokens.tokens).length := by
  simp [printedLines, List.length_flatMap]

theorem splitOn_renderText (oneLine : ∀ answer ∈ answers, '\n' ∉ answer.file.toList) :
    (TokensRequest.renderText answers).toList.splitOn '\n' = printedLines answers ++ [[]] := by
  rw [toList_renderText]
  apply splitOn_flatMap
  intro line mem
  simp only [printedLines, List.mem_flatMap, List.mem_map] at mem
  rcases mem with ⟨answer, answerMem, record, -, rfl⟩
  apply PrintedToken.not_mem_lineOf
  intro own shown
  simp only [shownName, Option.mem_def, Option.ite_none_right_eq_some, Option.some.injEq] at shown
  rw [← shown.2]
  exact oneLine answer answerMem

theorem mapM_read?_printedLines (answers : List FileTokens) :
    (printedLines answers).mapM PrintedToken.read? = some (printedTokens answers) := by
  apply mapM_eq_pure
  apply List.rel_flatMap (R := Eq) (List.forall₂_refl answers)
  rintro answer _ rfl
  simp only [List.forall₂_map_left_iff, List.forall₂_map_right_iff, List.forall₂_same]
  intro record _
  exact PrintedToken.read?_lineOf (shownName answers answer) record

theorem readAll?_renderText (oneLine : ∀ answer ∈ answers, '\n' ∉ answer.file.toList) :
    PrintedToken.readAll? (TokensRequest.renderText answers) = some (printedTokens answers) := by
  rw [PrintedToken.readAll?, splitOn_renderText oneLine, List.dropLast_concat,
    mapM_read?_printedLines]

end Output

namespace TokensRequest

variable {request : TokensRequest} {files : FileSystem} {standardInput : Contents}
  {settings : Settings} {gathering : Gathering CommandError FileTokens} {input : Input}
  {answer : FileTokens} {answers : List FileTokens} {output : String}

theorem exists_collect_of_runWith (asText : request.format = .text)
    (printed : request.runWith files standardInput settings gathering = .ok output) :
    ∃ answers, request.collect files standardInput settings gathering = .ok answers ∧
      output = renderText answers := by
  simp only [runWith, asText, bind, Except.bind_eq_ok_iff, pure, Except.pure,
    Except.ok.injEq] at printed
  rcases printed with ⟨answers, collected, rfl⟩
  exact ⟨answers, collected, rfl⟩

/-- The answer for an input has the text that the input holds. -/
theorem AnswersAlone.texts (alone : request.AnswersAlone files standardInput settings input answer) :
    input.Holds files standardInput (String.join (answer.tokens.map TokenRecord.text)) := by
  rcases alone with ⟨text, table, holds, -, -, lists⟩
  have text_eq : String.join (answer.tokens.map TokenRecord.text) = text := by
    apply String.toList_injective
    rw [String.toList_join, List.flatMap_map]
    exact lists.texts (table.tiles_merged request.merge text)
  rw [text_eq]
  exact holds

theorem names_of_answersAlone {inputs : List Input}
    (each : List.Forall₂ (request.AnswersAlone files standardInput settings) inputs answers) :
    answers.map FileTokens.file = inputs.map Input.name := by
  induction each with
  | nil => rfl
  | cons first later ih =>
      rcases first with ⟨-, -, -, -, name, -⟩
      simp only [List.map_cons, name, ih]

/-- What is printed as text can be read again: it has one line for every record, each of them ended
by a line feed, and the records can be told from it, with the names of the inputs if there are
several of them. The texts that are read from the output for one input make up what the input
holds. -/
theorem text_output_decodes (asText : request.format = .text)
    (printed : request.runWith files standardInput settings gathering = .ok output)
    (oneLine : ∀ input ∈ Input.named request.arguments, '\n' ∉ input.name.toList) :
    ∃ answers, request.collect files standardInput settings gathering = .ok answers ∧
      answers.map FileTokens.file = (Input.named request.arguments).map Input.name ∧
      (∃ lines, output.toList.splitOn '\n' = lines ++ [[]] ∧
        lines.length = (answers.flatMap FileTokens.tokens).length) ∧
      PrintedToken.readAll? output = some (printedTokens answers) ∧
      ∀ input, Input.named request.arguments = [input] →
        input.Holds files standardInput
          (String.join ((printedTokens answers).map PrintedToken.text)) := by
  rcases exists_collect_of_runWith asText printed with ⟨answers, collected, rfl⟩
  have each := answersAlone_of_collect collected
  have names := names_of_answersAlone each
  have whole : ∀ answer ∈ answers, '\n' ∉ answer.file.toList := by
    intro answer mem
    have nameMem : answer.file ∈ (Input.named request.arguments).map Input.name := by
      rw [← names]
      exact List.mem_map_of_mem mem
    rcases List.mem_map.mp nameMem with ⟨input, inputMem, name⟩
    rw [← name]
    exact oneLine input inputMem
  refine ⟨answers, collected, names, ?_, readAll?_renderText whole, ?_⟩
  · exact ⟨printedLines answers, splitOn_renderText whole, length_printedLines answers⟩
  · intro input single
    rw [single] at each
    rcases List.forall₂_cons_left_iff.mp each with ⟨answer, rest, alone, none, rfl⟩
    cases none
    have texts_eq : (printedTokens [answer]).map PrintedToken.text =
        answer.tokens.map TokenRecord.text := by
      simp [printedTokens, PrintedToken.ofRecord, Function.comp_def]
    rw [texts_eq]
    exact alone.texts

/-- Standard input and a file whose name ends as the place of a token does. -/
def withSeparators : TokensRequest where
  arguments := ["-", "1:2\t3:4"]
  rules := some "rules/spl.toml"
  merge := true

/-- The files with a rule file and with this file. -/
def separatorFiles : FileSystem :=
  .ofList [("rules/spl.toml", .file (RuleFile.write LexerChoice.ownLanguage).toUTF8),
    ("1:2\t3:4", .file "\t\"x\n".toUTF8)]

/-- The answers for these inputs. -/
def separatorAnswers : List FileTokens :=
  [{ file := "<stdin>", tokens := [⟨.keyword, "x", 0, 1, 1, 1⟩, ⟨.plainText, "\\", 1, 2, 1, 2⟩] },
    { file := "1:2\t3:4"
      tokens := [⟨.plainText, "\t\"", 0, 2, 1, 1⟩, ⟨.keyword, "x", 2, 3, 1, 3⟩,
        ⟨.plainText, "\n", 3, 4, 1, 4⟩] }]

theorem exists_ownTable : ∃ table, RuleTable.build LexerChoice.ownLanguage.emptyFirst = .ok table ∧
    withSeparators.scanned table "x\\" = [⟨.keyword, "x", 0, 1⟩, ⟨.plainText, "\\", 1, 2⟩] ∧
    withSeparators.scanned table "\t\"x\n" =
      [⟨.plainText, "\t\"", 0, 2⟩, ⟨.keyword, "x", 2, 3⟩, ⟨.plainText, "\n", 3, 4⟩] :=
  ⟨_, rfl, by decide +kernel, by decide +kernel⟩

theorem resolve_withSeparators {table : RuleTable}
    (built : RuleTable.build LexerChoice.ownLanguage.emptyFirst = .ok table)
    (path : Option String) :
    withSeparators.choice.resolve separatorFiles {} path = .ok table := by
  have present : separatorFiles.entry "rules/spl.toml" =
      .file (RuleFile.write LexerChoice.ownLanguage).toUTF8 := rfl
  rw [choice_of_rules rfl, LexerChoice.resolve, LexerChoice.definition,
    loadRulesFile_of_text present, RuleFile.read_write]
  simp [compileDefinition, built, Except.mapError, bind, Except.bind]

theorem collect_withSeparators :
    withSeparators.collect separatorFiles "x\\".toUTF8 {} .inOrder = .ok separatorAnswers := by
  rcases exists_ownTable with ⟨table, built, first, second⟩
  apply collect_eq_of_oneByOne
  apply OneByOne.answers (by decide)
  refine List.Forall₂.cons ?_ (List.Forall₂.cons ?_ List.Forall₂.nil)
  · refine ⟨"x\\", table, rfl, resolve_withSeparators built none, rfl, first.symm, (1, 3), ?_⟩
    decide +kernel
  · refine ⟨"\t\"x\n", table, rfl, resolve_withSeparators built _, rfl, second.symm, (2, 1), ?_⟩
    decide +kernel

/-- The records can be told from the output for these inputs. -/
theorem text_output_decodes_separators :
    ∃ output, withSeparators.runWith separatorFiles "x\\".toUTF8 {} .inOrder = .ok output ∧
      output = "<stdin>:1:1\tKeyword\t\"x\"\n<stdin>:1:2\tPlainText\t\"\\\\\"\n" ++
        "1:2\t3:4:1:1\tPlainText\t\"\\t\\\"\"\n1:2\t3:4:1:3\tKeyword\t\"x\"\n" ++
        "1:2\t3:4:1:4\tPlainText\t\"\\n\"\n" ∧
      PrintedToken.readAll? output = some
        [⟨some "<stdin>", 1, 1, .keyword, "x"⟩, ⟨some "<stdin>", 1, 2, .plainText, "\\"⟩,
          ⟨some "1:2\t3:4", 1, 1, .plainText, "\t\""⟩, ⟨some "1:2\t3:4", 1, 3, .keyword, "x"⟩,
          ⟨some "1:2\t3:4", 1, 4, .plainText, "\n"⟩] := by
  have printed : withSeparators.runWith separatorFiles "x\\".toUTF8 {} .inOrder =
      .ok (renderText separatorAnswers) := by
    rw [runWith, collect_withSeparators]
    rfl
  have oneLine : ∀ input ∈ Input.named withSeparators.arguments, '\n' ∉ input.name.toList := by
    decide
  rcases text_output_decodes rfl printed oneLine with ⟨answers, collected, -, -, read, -⟩
  rw [collect_withSeparators] at collected
  cases collected
  exact ⟨_, printed, by decide +kernel, read⟩

end TokensRequest

end RuleLexer
