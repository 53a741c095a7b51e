import RuleLexer.Proofs.Bundled.Enclosures
import RuleLexer.Proofs.Bundled.Lookahead
import RuleLexer.Proofs.Bundled.Parameters

/-!
# Quoted texts and comments as tokens

Where a text in single quotes or a comment begins, the only earlier rule that can match is the one
for parameters. So the whole of it is one token, except where the characters from its first
delimiter on stand as a parameter: then the token is that parameter.
-/

namespace RuleLexer.Bundled

open Regex Expr

/-- The text begins with a text in single quotes or a comment of `count` characters, which is to
have the category. -/
inductive Encloses : List Char → Category → Nat → Prop
  | quoted {body : List Char} {count : Nat} (closes : closingQuote? '\'' body = some count) :
      Encloses ('\'' :: body) .stringSingle (count + 2)
  | comment {body : List Char} {count : Nat} (fence : FenceAfter body count) :
      Encloses (backticks ++ body) .commentMultiline (count + 6)

/-- The token has the category and is made of the next `count` characters of the text. -/
structure IsNext (token : Token) (category : Category) (before rest : List Char) (count : Nat) :
    Prop where
  category_eq : token.category = category
  text_eq : token.text.toList = rest.take count
  start_eq : token.start = Text.byteLength before
  stop_eq : token.stop = Text.byteLength (before ++ rest.take count)

variable {before rest body : List Char} {rule : Rule} {category : Category} {index count : Nat}
  {token : Token}

theorem not_takes_macroName (present : splCompiled[4]? = some rule) :
    ¬rule.Takes before (backticks ++ body) count := by
  have program : rule.program = macroName.toProgram := by
    cases present
    rfl
  have noName : wordChars.runLength ('\x60' :: '\x60' :: body) = 0 := by
    have other : wordChars.contains '\x60' = false := by decide +kernel
    simp [CharClass.runLength, other]
  intro takes
  rcases ((Rule.takes_iff program rfl).mp takes).2.1 with ⟨after, first, -⟩
  have mem := List.mem_of_mem_head? first
  rw [macroName, ways, List.mem_flatMap] at mem
  rcases mem with ⟨middle, mem, -⟩
  rw [ways, if_pos rfl] at mem
  rcases List.mem_map.mp mem with ⟨inner, mem, -⟩
  rw [ways, List.mem_flatMap] at mem
  rcases mem with ⟨named, backtick, name⟩
  rcases mem_ways_set_iff.mp backtick with ⟨-, rfl⟩
  rcases mem_ways_run_iff.mp name with ⟨length, within, -⟩
  exact Nat.not_lt_zero length (Nat.lt_of_lt_of_eq within noName)

/-- Before the rule for texts in single quotes, only that for parameters can match at a quote. -/
theorem noneTakes_quote (early : index ≤ 14)
    (alone : index ≤ 10 ∨ ¬StandsAsParameter before ('\'' :: body)) :
    Rule.NoneTakes (splCompiled.take index) before ('\'' :: body) := by
  refine noneTakes_unless_parameter rfl (by decide) alone ?_
  have flags : ∀ earlier < 14, earlier ≠ 10 → (mayBeginFlags '\'')[earlier]? = some false := by
    decide +kernel
  intro earlier less parameter
  exact Or.inl (flags earlier (by omega) parameter)

/-- Before the rule for comments, only that for parameters can match at three backticks. -/
theorem noneTakes_fence (early : index ≤ 15)
    (alone : index ≤ 10 ∨ ¬StandsAsParameter before (backticks ++ body)) :
    Rule.NoneTakes (splCompiled.take index) before (backticks ++ body) := by
  refine noneTakes_unless_parameter rfl (by decide) alone ?_
  have flags : ∀ earlier < 15, earlier ≠ 10 → earlier ≠ 4 →
      (mayBeginFlags '\x60')[earlier]? = some false := by
    decide +kernel
  intro earlier less parameter
  by_cases name : earlier = 4
  · subst name
    exact Or.inr fun rule present count => not_takes_macroName present
  · exact Or.inl (flags earlier (by omega) parameter name)

/-- What is enclosed is taken by the rule for it, unless it stands as a parameter. -/
theorem exists_firstTakes_encloses (encloses : Encloses rest category count)
    (alone : ¬StandsAsParameter before rest) :
    ∃ index rule, Rule.FirstTakes splCompiled before rest index rule count ∧
      rule.category = category := by
  cases encloses with
  | quoted closes =>
      refine ⟨14, _, ⟨rfl, ?_, noneTakes_quote (Nat.le_refl 14) (Or.inr alone)⟩, rfl⟩
      exact takes_quoted (by decide) rfl rfl rfl closes
  | comment fence =>
      refine ⟨15, _, ⟨rfl, ?_, noneTakes_fence (Nat.le_refl 15) (Or.inr alone)⟩, rfl⟩
      exact takes_comment rfl rfl rfl fence

/-- A parameter is taken by the rule for parameters, also where it begins as something enclosed. -/
theorem exists_firstTakes_parameter (encloses : Encloses rest category count)
    (stands : StandsAsParameter before rest) :
    ∃ index rule, Rule.FirstTakes splCompiled before rest index rule (parameterLength rest) ∧
      rule.category = .variable := by
  refine ⟨10, _, ⟨rfl, (takes_parameter_iff rfl).mpr ⟨stands, ?_, rfl⟩, ?_⟩, rfl⟩
  · cases encloses with
    | quoted closes => exact parameterLength_pos (by decide +kernel)
    | comment closes => exact parameterLength_pos (by decide +kernel)
  · cases encloses with
    | quoted closes => exact noneTakes_quote (by decide) (Or.inl (Nat.le_refl 10))
    | comment closes => exact noneTakes_fence (by decide) (Or.inl (Nat.le_refl 10))

theorem position_of_step {text : String} {cursor after : Cursor}
    (source : cursor.source = text.toList)
    (step : splTable.next? cursor = some (token, after)) (parts : text.toList = before ++ rest)
    (start : token.start = Text.byteLength before) :
    cursor.before = before ∧ cursor.rest = rest := by
  apply Text.append_inj_of_byteLength
  · rw [← Cursor.source_eq, source, parts]
  · rw [← Cursor.offset_eq_before, ← RuleTable.start_of_next? step, start]

/-- A token that begins after a part of the text is given by a step there. -/
theorem exists_step_at {text : String} (mem : token ∈ splTable.tokenize text)
    (parts : text.toList = before ++ rest) (start : token.start = Text.byteLength before) :
    ∃ cursor after : Cursor, cursor.before = before ∧ cursor.rest = rest ∧
      cursor.stack.toList = [⟨0⟩] ∧ splTable.next? cursor = some (token, after) := by
  rcases List.mem_iff_getElem?.mp mem with ⟨place, present⟩
  rcases exists_step_of_tokenize present with ⟨cursor, after, stack, source, step, -⟩
  rcases position_of_step source step parts start with ⟨here, remains⟩
  exact ⟨cursor, after, here, remains, stack, step⟩

/-- The token that begins after a part of the text is the one that the first matching rule takes
there. -/
theorem isNext_of_firstTakes {text : String} (mem : token ∈ splTable.tokenize text)
    (parts : text.toList = before ++ rest) (start : token.start = Text.byteLength before)
    (first : Rule.FirstTakes splCompiled before rest index rule count) :
    IsNext token rule.category before rest count := by
  rcases exists_step_at mem parts start with ⟨cursor, after, rfl, rfl, stack, step⟩
  rw [← active_eq stack] at first
  rw [RuleTable.next?_of_firstTakes first] at step
  cases step
  refine ⟨rfl, String.toList_ofList, start, ?_⟩
  rw [Text.byteLength_append, ← start]
  rfl

/-- The token that begins where no rule matches is the next character alone. -/
theorem isNext_of_noneTakes {text : String} (mem : token ∈ splTable.tokenize text)
    (parts : text.toList = before ++ rest) (start : token.start = Text.byteLength before)
    (none : Rule.NoneTakes splCompiled before rest) : IsNext token .plainText before rest 1 := by
  rcases exists_step_at mem parts start with ⟨cursor, after, rfl, rfl, stack, step⟩
  rw [← active_eq stack] at none
  rcases remains : cursor.rest with _ | ⟨char, tail⟩
  · rw [RuleTable.next?_eq_none_iff.mpr remains] at step
    cases step
  · rw [RuleTable.next?_of_noneTakes remains none] at step
    cases step
    rw [← remains]
    refine ⟨rfl, String.toList_ofList, start, ?_⟩
    rw [Text.byteLength_append, ← start]
    rfl

/-- Where a token stops, the first matching rule gives the next one. -/
theorem exists_next_of_firstTakes {text : String} {place : Nat}
    (present : (splTable.tokenize text)[place]? = some token)
    (parts : text.toList = before ++ rest) (stop : token.stop = Text.byteLength before)
    (first : Rule.FirstTakes splCompiled before rest index rule count) :
    ∃ next ∈ splTable.tokenize text, IsNext next rule.category before rest count := by
  rcases exists_step_of_tokenize present with ⟨cursor, after, -, source, step, stack, later⟩
  obtain ⟨rfl, rfl⟩ : after.before = before ∧ after.rest = rest := by
    refine Text.append_inj_of_byteLength ?_ ?_
    · rw [← Cursor.source_eq, RuleTable.source_of_next? step, source, parts]
    · rw [← Cursor.offset_eq_before, ← RuleTable.stop_of_next? step, stop]
  have active := active_eq stack
  rw [RuleTable.next?_of_firstTakes (active ▸ first), Option.map_some] at later
  have mem := List.mem_of_getElem? later
  exact ⟨_, mem, isNext_of_firstTakes mem parts (Cursor.offset_eq_before after) first⟩

/-- A text in single quotes and a comment are one token each, except where the characters from the
first delimiter on stand as a parameter. -/
theorem enclosed_is_token {table : RuleTable} (built : RuleTable.build spl = .ok table)
    {text : String} (mem : token ∈ table.tokenize text) (parts : text.toList = before ++ rest)
    (start : token.start = Text.byteLength before) (encloses : Encloses rest category count) :
    (¬StandsAsParameter before rest → IsNext token category before rest count) ∧
    (StandsAsParameter before rest →
      IsNext token .variable before rest (parameterLength rest)) := by
  cases eq_splTable built
  constructor
  · intro alone
    rcases exists_firstTakes_encloses encloses alone with ⟨index, rule, first, rfl⟩
    exact isNext_of_firstTakes mem parts start first
  · intro stands
    rcases exists_firstTakes_parameter encloses stands with ⟨index, rule, first, category_eq⟩
    rw [← category_eq]
    exact isNext_of_firstTakes mem parts start first

theorem enclosed_is_token_quoted :
    ∃ table token, RuleTable.build spl = .ok table ∧ token ∈ table.tokenize "'a,b'" ∧
      token.start = 0 ∧ Encloses "'a,b'".toList .stringSingle 5 ∧
        IsNext token .stringSingle [] "'a,b'".toList 5 := by
  have encloses : Encloses "'a,b'".toList .stringSingle 5 :=
    .quoted (show closingQuote? '\'' ['a', ',', 'b', '\''] = some 3 from rfl)
  rcases exists_firstTakes_encloses encloses not_standsAsParameter_nil with
    ⟨index, rule, first, -⟩
  have mem := List.mem_of_getElem? (getElem?_zero_of_firstTakes first)
  exact ⟨splTable, _, build_spl, mem, rfl, encloses,
    (enclosed_is_token build_spl mem rfl rfl encloses).1 not_standsAsParameter_nil⟩

theorem quoted_after_parenthesis_splits :
    ∃ table token, RuleTable.build spl = .ok table ∧ token ∈ table.tokenize "('a,b')" ∧
      "('a,b')".toList = ['('] ++ "'a,b')".toList ∧ token.start = Text.byteLength ['('] ∧
        Encloses "'a,b')".toList .stringSingle 5 ∧
          ¬IsNext token .stringSingle ['('] "'a,b')".toList 5 := by
  have encloses : Encloses "'a,b')".toList .stringSingle 5 :=
    .quoted (show closingQuote? '\'' ['a', ',', 'b', '\'', ')'] = some 3 from rfl)
  have length : parameterLength "'a,b')".toList = 2 := by decide +kernel
  have stands : StandsAsParameter ['('] "'a,b')".toList := by
    refine ⟨⟨'(', rfl, Or.inl rfl⟩, ⟨',', ?_, Or.inr rfl⟩⟩
    rw [length]
    rfl
  obtain ⟨index, rule, first, -⟩ : ∃ index rule,
      Rule.FirstTakes splCompiled [] "('a,b')".toList index rule 1 ∧ rule.category = .operator :=
    exists_firstTakes_operator List.mem_cons_self rfl
  have present := getElem?_zero_of_firstTakes first
  rcases exists_firstTakes_parameter encloses stands with ⟨index', rule', first', category⟩
  rcases exists_next_of_firstTakes present rfl rfl first' with ⟨token, mem, next⟩
  refine ⟨splTable, token, build_spl, mem, rfl, next.start_eq, encloses, ?_⟩
  intro quoted
  rw [category] at next
  cases next.category_eq.symm.trans quoted.category_eq

end RuleLexer.Bundled
