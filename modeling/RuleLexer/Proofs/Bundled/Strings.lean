import RuleLexer.Proofs.Bundled.Atomic

/-!
# Where strings end

A string that is closed by a quote outside an escape sequence ends there. A string that is not
closed is no string if no quote comes after its first one. If there is one, then it is escaped, and
here the pattern takes the backslash before it for a character like any other: such a string ends at
the last quote of the whole text.
-/

namespace RuleLexer.Bundled

open Regex Expr

variable {following : Option Char} {reading : Reading} {quote char : Char}
  {before rest body inside front : List Char} {rule : Rule} {index count : Nat} {token : Token}
  {text : String}

theorem closingQuote?_cons (plain : char ≠ '\\') :
    closingQuote? quote (char :: rest) =
      if char = quote then some 0 else (closingQuote? quote rest).map (· + 1) := by
  rw [closingQuote?]
  intro next tail backslash
  exact absurd backslash plain

/-- What comes after the closing quote does not matter. -/
theorem closingQuote?_take_append (noEscape : quote ≠ '\\')
    (closes : closingQuote? quote body = some count) (back : List Char) :
    closingQuote? quote (body.take (count + 1) ++ back) = some count := by
  fun_induction closingQuote? quote body generalizing count with
  | case1 => cases closes
  | case2 next rest escaped ih =>
      rcases Option.map_eq_some_iff.mp closes with ⟨inner, inner_closes, rfl⟩
      simp [closingQuote?, escaped, ih inner_closes]
  | case3 next rest plain ih =>
      rcases Option.map_eq_some_iff.mp closes with ⟨inner, inner_closes, rfl⟩
      have later := ih inner_closes
      rw [List.take_succ_cons, List.cons_append] at later
      simp [closingQuote?, plain, later]
  | case4 rest plain =>
      cases closes
      simp [closingQuote?_cons noEscape]
  | case5 char rest plain other ih =>
      rcases Option.map_eq_some_iff.mp closes with ⟨inner, inner_closes, rfl⟩
      have noBackslash : char ≠ '\\' := by
        rintro rfl
        rcases rest with _ | ⟨next, rest⟩
        · cases inner_closes
        · exact plain next rest rfl rfl
      simp [closingQuote?_cons noBackslash, other, ih inner_closes]

theorem closingQuote?_append (noEscape : quote ≠ '\\') (back : List Char)
    (closes : closingQuote? quote front = some count) :
    closingQuote? quote (front ++ back) = some count := by
  have same := closingQuote?_take_append noEscape closes (front.drop (count + 1) ++ back)
  rwa [← List.append_assoc, List.take_append_drop] at same

/-- Whether a string is closed can be told from its own characters. -/
theorem closingQuote?_inside_iff (noEscape : quote ≠ '\\') (inside rest : List Char) :
    closingQuote? quote (inside ++ quote :: rest) = some inside.length ↔
      closingQuote? quote (inside ++ [quote]) = some inside.length := by
  constructor
  · intro closes
    have same := closingQuote?_take_append noEscape closes []
    simpa [List.take_append, List.take_of_length_le] using same
  · intro closes
    have same := closingQuote?_append noEscape rest closes
    simpa using same

theorem getElem?_closingQuote (closes : closingQuote? quote body = some count) :
    body[count]? = some quote := by
  fun_induction closingQuote? quote body generalizing count with
  | case1 => cases closes
  | case2 next rest escaped ih =>
      rcases Option.map_eq_some_iff.mp closes with ⟨inner, inner_closes, rfl⟩
      simpa using ih inner_closes
  | case3 next rest plain ih =>
      rcases Option.map_eq_some_iff.mp closes with ⟨inner, inner_closes, rfl⟩
      simpa using ih inner_closes
  | case4 rest plain =>
      cases closes
      rfl
  | case5 char rest plain other ih =>
      rcases Option.map_eq_some_iff.mp closes with ⟨inner, inner_closes, rfl⟩
      simpa using ih inner_closes

/-- A string ends at the quote between two parts of the text after its opening quote: at the first
quote that is not escaped, or if there is none, at the last quote of the text. -/
inductive StringEnd (quote : Char) (inside rest : List Char) : Prop
  | closed (closes : closingQuote? quote (inside ++ quote :: rest) = some inside.length)
  | unclosed (never : closingQuote? quote (inside ++ quote :: rest) = none) (last : quote ∉ rest)

theorem exists_stringEnd (mem : quote ∈ body) :
    ∃ inside rest, body = inside ++ quote :: rest ∧ StringEnd quote inside rest := by
  cases closes : closingQuote? quote body with
  | some count =>
      have here := getElem?_closingQuote closes
      rcases List.getElem?_eq_some_iff.mp here with ⟨less, here⟩
      have parts : body = body.take count ++ quote :: body.drop (count + 1) := by
        rw [← here, List.getElem_cons_drop, List.take_append_drop]
      have length : (body.take count).length = count := List.length_take_of_le (Nat.le_of_lt less)
      refine ⟨_, _, parts, .closed ?_⟩
      rw [← parts, closes, length]
  | none =>
      rcases List.eq_append_cons_of_mem (List.mem_reverse.mpr mem) with ⟨rest, inside, parts, last⟩
      have parts : body = inside.reverse ++ quote :: rest.reverse := by
        have reversed := congrArg List.reverse parts
        simpa using reversed
      refine ⟨_, _, parts, .unclosed (parts ▸ closes) ?_⟩
      simpa using last

/-- Without a further quote a string cannot end. -/
theorem ways_quoted_of_not_mem (absent : quote ∉ reading.rest) :
    (seq (star true (quotedUnit quote)) (one quote)).ways following reading = [] := by
  apply List.eq_nil_iff_forall_not_mem.mpr
  intro after mem
  rw [ways, List.mem_flatMap] at mem
  rcases mem with ⟨middle, middle_mem, mem⟩
  rcases mem_ways_set_iff.mp mem with ⟨⟨char, next, inside⟩, -⟩
  simp only [CharClass.contains_single, decide_eq_true_eq] at inside
  rcases reaches_of_mem_ways _ middle_mem with ⟨taken, remains, -, -⟩
  apply absent
  rw [remains, ← inside]
  exact List.mem_append_right taken (List.mem_of_head? next)

/-- If the last quote is escaped, the loop goes on behind it in vain, and then takes the backslash
before it for a character of its own. -/
theorem exists_ways_escapedLast (noEscape : quote ≠ '\\') (reading : Reading)
    (text_eq : reading.rest = '\\' :: quote :: rest) (last : quote ∉ rest) :
    ∃ after, ((seq (star true (quotedUnit quote)) (one quote)).ways following reading).head? =
      some after ∧ after.position = reading.position + 2 := by
  have lengths : unitLengths quote reading.rest = [2, 1] := by
    simp [unitLengths, text_eq, Ne.symm noEscape]
  generalize behind_eq : ((reading.record .start).skip 2).record .stop = behind
  generalize single_eq : ((reading.record .start).skip 1).record .stop = single
  have fails : (seq (star true (quotedUnit quote)) (one quote)).ways following behind = [] := by
    apply ways_quoted_of_not_mem
    simpa [← behind_eq, text_eq] using last
  have closes : closingQuote? quote single.rest = some 0 := by
    simp [← single_eq, text_eq, closingQuote?_cons noEscape]
  obtain ⟨after, first, position⟩ : ∃ after, ((seq (star true (quotedUnit quote))
      (one quote)).ways following single).head? = some after ∧
        after.position = single.position + 0 + 1 := exists_ways_quoted noEscape single closes
  refine ⟨after, ?_, ?_⟩
  · rw [ways_seq_star_greedy rfl, ways_quotedUnit, lengths]
    simp [behind_eq, single_eq, fails, first]
  · rw [position, ← single_eq]
    rfl

/-- Where every quote is escaped, the loop goes on to the last one. -/
theorem exists_ways_unclosed (noEscape : quote ≠ '\\') (reading : Reading)
    (never : closingQuote? quote reading.rest = none)
    (parts : reading.rest = inside ++ quote :: rest) (last : quote ∉ rest) :
    ∃ after, ((seq (star true (quotedUnit quote)) (one quote)).ways following reading).head? =
      some after ∧ after.position = reading.position + inside.length + 1 := by
  generalize text_eq : reading.rest = body at never
  rw [text_eq] at parts
  fun_induction closingQuote? quote body generalizing reading inside with
  | case1 => simp at parts
  | case2 next tail escaped ih =>
      have later : closingQuote? quote tail = none := Option.map_eq_none_iff.mp never
      rcases inside with _ | ⟨first, _ | ⟨second, inside⟩⟩
      · simp only [List.nil_append, List.cons.injEq] at parts
        exact absurd parts.1.symm noEscape
      · simp only [List.cons_append, List.nil_append, List.cons.injEq] at parts
        rcases parts with ⟨-, rfl, rfl⟩
        exact exists_ways_escapedLast noEscape reading text_eq last
      · simp only [List.cons_append, List.cons.injEq] at parts
        rcases unitLengths_escaped noEscape escaped with ⟨others, lengths⟩
        rw [← text_eq] at lengths
        have longer : (first :: second :: inside).length = inside.length + 2 := rfl
        rw [longer]
        exact exists_ways_unit lengths (ih _ parts.2.2 (by simp [text_eq]) later)
  | case3 next tail plain ih =>
      have later : closingQuote? quote (next :: tail) = none := Option.map_eq_none_iff.mp never
      rcases inside with _ | ⟨first, inside⟩
      · simp only [List.nil_append, List.cons.injEq] at parts
        exact absurd parts.1.symm noEscape
      · simp only [List.cons_append, List.cons.injEq] at parts
        have lengths : unitLengths quote reading.rest = [1] := by
          rw [text_eq]
          exact unitLengths_backslash noEscape plain
        exact exists_ways_unit lengths (ih _ parts.2 (by simp [text_eq]) later)
  | case4 rest plain => cases never
  | case5 char tail plain other ih =>
      have later : closingQuote? quote tail = none := Option.map_eq_none_iff.mp never
      rcases inside with _ | ⟨first, inside⟩
      · simp only [List.nil_append, List.cons.injEq] at parts
        exact absurd parts.1 other
      · simp only [List.cons_append, List.cons.injEq] at parts
        have lengths : unitLengths quote reading.rest = [1] := by
          rw [text_eq]
          exact unitLengths_other plain other
        exact exists_ways_unit lengths (ih _ parts.2 (by simp [text_eq]) later)

section Rules

variable (noEscape : quote ≠ '\\') (program : rule.program = (quoted quote).toProgram)
  (alone : rule.lookbehind = none) (consumes : rule.consumes = true)

include program

theorem not_takes_quoted (absent : quote ∉ body) : ¬rule.Takes before (quote :: body) count := by
  intro takes
  rcases ((Rule.takes_iff program rfl).mp takes).2.1 with ⟨after, first, -⟩
  have mem := List.mem_of_mem_head? first
  rw [quoted, ways_seq_assoc, ways, one, ways_single, List.mem_flatMap] at mem
  rcases mem with ⟨middle, opening, later⟩
  rw [Reading.rest_between, if_pos (by simp), List.mem_singleton] at opening
  subst opening
  have none : (seq (star true (quotedUnit quote)) (one quote)).ways none
      ((Reading.between before (quote :: body)).skip 1) = [] := ways_quoted_of_not_mem absent
  rw [one] at none
  rw [none] at later
  cases later

include noEscape alone consumes

theorem takes_of_stringEnd (ends : StringEnd quote inside rest) :
    rule.Takes before (quote :: (inside ++ quote :: rest)) (inside.length + 2) := by
  cases ends with
  | closed closes => exact takes_quoted noEscape program alone consumes closes
  | unclosed never last =>
      apply takes_of_ways_quoted program alone consumes
      intro reading text_eq
      exact exists_ways_unclosed noEscape reading (text_eq ▸ never) text_eq last

/-- A rule for strings takes a text from a quote to the end of the string that begins there. -/
theorem takes_string_iff :
    rule.Takes before body count ↔
      ∃ inside rest, body = quote :: (inside ++ quote :: rest) ∧ StringEnd quote inside rest ∧
        count = inside.length + 2 := by
  constructor
  · intro takes
    rcases takes.begins program rfl rfl with ⟨first, head, begins⟩
    have first_eq : first = quote := by
      simpa [quoted, one, mayBegin, Expr.consumes] using begins
    rcases List.head?_eq_some_iff.mp head with ⟨tail, rfl⟩
    rw [first_eq] at takes ⊢
    have further : quote ∈ tail := by
      by_contra absent
      exact not_takes_quoted program absent takes
    rcases exists_stringEnd further with ⟨inside, rest, rfl, ends⟩
    exact ⟨inside, rest, rfl, ends,
      takes.unique (takes_of_stringEnd noEscape program alone consumes ends)⟩
  · rintro ⟨inside, rest, rfl, ends, rfl⟩
    exact takes_of_stringEnd noEscape program alone consumes ends

end Rules

/-- Before the rule for texts in double quotes no rule can match at such a quote, and after it none
can either, so nothing matches if no further quote comes. -/
theorem noneTakes_doubleQuote (known : index ≤ 17) (alone : index ≤ 13 ∨ '"' ∉ body) :
    Rule.NoneTakes (splCompiled.take index) before ('"' :: body) := by
  have flags : ∀ earlier < 17, earlier ≠ 13 → (mayBeginFlags '"')[earlier]? = some false := by
    decide +kernel
  apply noneTakes_take rfl (by decide)
  intro earlier less
  by_cases string : earlier = 13
  · right
    intro rule present count
    subst string
    cases present
    rcases alone with small | absent
    · omega
    · exact not_takes_quoted rfl absent
  · exact Or.inl (flags earlier (by omega) string)

theorem exists_firstTakes_string (ends : StringEnd '"' inside rest) :
    ∃ rule, Rule.FirstTakes splCompiled before ('"' :: (inside ++ '"' :: rest)) 13 rule
      (inside.length + 2) ∧ rule.category = .stringDouble := by
  refine ⟨_, ⟨rfl, ?_, ?_⟩, rfl⟩
  · exact takes_of_stringEnd (by decide) rfl rfl rfl ends
  · exact noneTakes_doubleQuote (by decide) (Or.inl (Nat.le_refl 13))

/-- The text is a string whose last character is the first quote outside its escape sequences. -/
def ClosesUnescaped (quote : Char) (text : List Char) : Prop :=
  ∃ inside, text = quote :: (inside ++ [quote]) ∧
    closingQuote? quote (inside ++ [quote]) = some inside.length

/-- The quote of a category of strings. -/
def quoteOf? : Category → Option Char
  | .stringDouble => some '"'
  | .stringSingle => some '\''
  | _ => none

theorem ne_backslash_of_quoteOf? {category : Category} (kind : quoteOf? category = some quote) :
    quote ≠ '\\' := by
  cases category <;> cases kind <;> decide

theorem quoted_of_quoteOf? (mem : rule ∈ splCompiled) (kind : quoteOf? rule.category = some quote) :
    rule.program = (quoted quote).toProgram ∧ rule.lookbehind = none ∧ rule.consumes = true := by
  rcases exists_position_of_mem mem with ⟨index, position, present⟩
  cases category : rule.category <;> rw [category] at kind position <;> cases kind
  case stringDouble =>
    obtain rfl : index = 13 := List.mem_singleton.mp position
    cases present
    exact ⟨rfl, rfl, rfl⟩
  case stringSingle =>
    obtain rfl : index = 14 := List.mem_singleton.mp position
    cases present
    exact ⟨rfl, rfl, rfl⟩

theorem closesUnescaped_iff :
    ClosesUnescaped quote (quote :: (inside ++ [quote])) ↔
      closingQuote? quote (inside ++ [quote]) = some inside.length := by
  simp [ClosesUnescaped]

theorem StringEnd.closesUnescaped_iff (noEscape : quote ≠ '\\') (ends : StringEnd quote inside rest) :
    ClosesUnescaped quote (quote :: (inside ++ [quote])) ↔
      (closingQuote? quote (inside ++ quote :: rest)).isSome = true := by
  rw [Bundled.closesUnescaped_iff, ← closingQuote?_inside_iff noEscape inside rest]
  cases ends with
  | closed closes => simp [closes]
  | unclosed never last => simp [never]

/-- A string token ends at the first quote that is not escaped, if the text has one after the
opening quote, and otherwise at the last quote of the text, which is escaped. -/
theorem string_closes_unescaped {table : RuleTable} (built : RuleTable.build spl = .ok table)
    (mem : token ∈ table.tokenize text) (kind : quoteOf? token.category = some quote) :
    ∃ before inside rest, text.toList = before ++ quote :: (inside ++ quote :: rest) ∧
      token.start = Text.byteLength before ∧ token.text.toList = quote :: (inside ++ [quote]) ∧
      (ClosesUnescaped quote token.text.toList ↔
        (closingQuote? quote (inside ++ quote :: rest)).isSome = true) ∧
      (closingQuote? quote (inside ++ quote :: rest) = none → quote ∉ rest) := by
  cases eq_splTable built
  rcases List.mem_iff_getElem?.mp mem with ⟨place, present⟩
  rcases exists_step_of_tokenize present with ⟨cursor, after, stack, source, step, -⟩
  have other : token.category ≠ .plainText := by
    intro same
    rw [same] at kind
    cases kind
  rcases exists_rule_of_next? stack step other with
    ⟨rule, rule_mem, category, count, takes, -, text_eq⟩
  have noEscape := ne_backslash_of_quoteOf? kind
  rw [← category] at kind
  rcases quoted_of_quoteOf? rule_mem kind with ⟨program, alone, consumes⟩
  rcases (takes_string_iff noEscape program alone consumes).mp takes with
    ⟨inside, rest, remains, ends, rfl⟩
  have text_eq : token.text.toList = quote :: (inside ++ [quote]) := by
    rw [text_eq, remains]
    simp [List.take_append]
  refine ⟨cursor.before, inside, rest, ?_, ?_, text_eq, ?_, ?_⟩
  · rw [← source, Cursor.source_eq, remains]
  · rw [RuleTable.start_of_next? step, Cursor.offset_eq_before]
  · rw [text_eq]
    exact ends.closesUnescaped_iff noEscape
  · intro never
    cases ends with
    | closed closes =>
        rw [closes] at never
        cases never
    | unclosed _ last => exact last

theorem string_closes_unescaped_behind_escape :
    ∃ table token, RuleTable.build spl = .ok table ∧ token ∈ table.tokenize "\"a\\\"b\"" ∧
      quoteOf? token.category = some '"' ∧ ClosesUnescaped '"' token.text.toList := by
  have ends : StringEnd '"' ['a', '\\', '"', 'b'] [] := .closed rfl
  obtain ⟨rule, first, category⟩ : ∃ rule,
      Rule.FirstTakes splCompiled [] "\"a\\\"b\"".toList 13 rule 6 ∧
        rule.category = .stringDouble := exists_firstTakes_string ends
  have mem := List.mem_of_getElem? (getElem?_zero_of_firstTakes first)
  have kind : quoteOf? (RuleTable.tokenAt (splTable.cursor "\"a\\\"b\"") rule.category 6).category =
      some '"' := by
    rw [RuleTable.tokenAt, category]
    rfl
  refine ⟨splTable, _, build_spl, mem, kind, ?_⟩
  rcases string_closes_unescaped build_spl mem kind with
    ⟨before, inside, rest, parts, start, -, closes, -⟩
  have nothing : before = [] := Text.byteLength_eq_zero_iff.mp start.symm
  subst nothing
  have body : inside ++ '"' :: rest = ['a', '\\', '"', 'b', '"'] := (List.cons.inj parts).2.symm
  rw [closes, body]
  rfl

theorem string_ends_at_escaped_quote :
    ∃ table token, RuleTable.build spl = .ok table ∧ token ∈ table.tokenize "\"\\\"" ∧
      quoteOf? token.category = some '"' ∧ ¬ClosesUnescaped '"' token.text.toList := by
  have ends : StringEnd '"' ['\\'] [] := .unclosed rfl List.not_mem_nil
  obtain ⟨rule, first, category⟩ : ∃ rule,
      Rule.FirstTakes splCompiled [] "\"\\\"".toList 13 rule 3 ∧ rule.category = .stringDouble :=
    exists_firstTakes_string ends
  have mem := List.mem_of_getElem? (getElem?_zero_of_firstTakes first)
  have next := isNext_of_firstTakes mem rfl rfl first
  refine ⟨splTable, _, build_spl, mem, ?_, ?_⟩
  · rw [next.category_eq, category]
    rfl
  · rw [next.text_eq]
    intro closes
    have unescaped := (ends.closesUnescaped_iff (by decide)).mp closes
    cases unescaped

/-- A string in double quotes that is closed is one token, up to the first quote that is not
escaped. If no quote comes after its first one, that one is a token of its own. -/
theorem doubleQuoted_is_token {table : RuleTable} (built : RuleTable.build spl = .ok table)
    (mem : token ∈ table.tokenize text) (parts : text.toList = before ++ '"' :: body)
    (start : token.start = Text.byteLength before) :
    (∀ count, closingQuote? '"' body = some count →
      IsNext token .stringDouble before ('"' :: body) (count + 2)) ∧
    ('"' ∉ body → IsNext token .plainText before ('"' :: body) 1) := by
  cases eq_splTable built
  constructor
  · intro count closes
    have takes : Rule.Takes splCompiled[13] before ('"' :: body) (count + 2) :=
      takes_quoted (by decide) rfl rfl rfl closes
    have first : Rule.FirstTakes splCompiled before ('"' :: body) 13 splCompiled[13] (count + 2) :=
      ⟨rfl, takes, noneTakes_doubleQuote (by decide) (Or.inl (Nat.le_refl 13))⟩
    exact isNext_of_firstTakes mem parts start first
  · intro absent
    have none : Rule.NoneTakes (splCompiled.take 17) before ('"' :: body) :=
      noneTakes_doubleQuote (Nat.le_refl 17) (Or.inr absent)
    exact isNext_of_noneTakes mem parts start none

theorem doubleQuoted_is_token_backslashes :
    ∃ table token, RuleTable.build spl = .ok table ∧ token ∈ table.tokenize "\"(,\\\\\"" ∧
      token.start = 0 ∧ closingQuote? '"' ['(', ',', '\\', '\\', '"'] = some 4 ∧
        IsNext token .stringDouble [] "\"(,\\\\\"".toList 6 := by
  have ends : StringEnd '"' ['(', ',', '\\', '\\'] [] := .closed rfl
  obtain ⟨rule, first, -⟩ : ∃ rule,
      Rule.FirstTakes splCompiled [] "\"(,\\\\\"".toList 13 rule 6 ∧ rule.category = .stringDouble :=
    exists_firstTakes_string ends
  have mem := List.mem_of_getElem? (getElem?_zero_of_firstTakes first)
  exact ⟨splTable, _, build_spl, mem, rfl, rfl,
    (doubleQuoted_is_token build_spl mem rfl rfl).1 4 rfl⟩

end RuleLexer.Bundled
