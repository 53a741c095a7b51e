import RuleLexer.Proofs.Bundled.Parameters
import RuleLexer.Proofs.Scan.Partition

/-!
# What the bundled rules look at

The rules for variables and for function names look at the characters after the token. These
characters are not part of the token, and unless it is a backtick, the first of them is the next
token: no rule before those for operators can begin with it.
-/

namespace RuleLexer

namespace Token

/-- The character comes right after the token in the text. -/
def FollowedBy (token : Token) (text : String) (char : Char) : Prop :=
  ∃ front rest, text.toList = front ++ char :: rest ∧ token.stop = Text.byteLength front

/-- The character comes right after the token at `index` and is the next token, an operator. -/
structure BeforeOperator (text : String) (tokens : List Token) (index : Nat) (token : Token)
    (char : Char) : Prop where
  followed : token.FollowedBy text char
  next : ∃ next, tokens[index + 1]? = some next ∧ next.category = .operator ∧
    next.text = String.singleton char ∧ next.start = token.stop

end Token

namespace Bundled

open Regex Expr

variable {char : Char} {before rest : List Char} {rule : Rule} {index count : Nat}
  {cursor after : Cursor} {token : Token}

/-- The rules for variables and function names look ahead; these are their expressions. -/
theorem lookahead_cases (mem : rule ∈ splCompiled)
    (category : rule.category = .variable ∨ rule.category = .functionName) :
    rule.consumes = false ∧
      (rule.category = .functionName ∧ (∃ words, rule.program = (call words).toProgram) ∨
        rule.category = .functionName ∧ rule.program = macroName.toProgram ∨
        rule.category = .variable ∧ rule.program = parameter.toProgram ∨
        rule.category = .variable ∧ rule.program = field.toProgram) := by
  rcases exists_position_of_mem mem with ⟨index, position, present⟩
  rcases category with category | category
  · rw [category, show positionsOf .variable = [10, 11] from rfl, List.mem_pair] at position
    rcases position with rfl | rfl
    · cases present
      exact ⟨rfl, Or.inr (Or.inr (Or.inl ⟨rfl, rfl⟩))⟩
    · cases present
      exact ⟨rfl, Or.inr (Or.inr (Or.inr ⟨rfl, rfl⟩))⟩
  · rw [category, show positionsOf .functionName = [1, 2, 4] from rfl] at position
    simp only [List.mem_cons, List.not_mem_nil, or_false] at position
    rcases position with rfl | rfl | rfl
    · cases present
      exact ⟨rfl, Or.inl ⟨rfl, _, rfl⟩⟩
    · cases present
      exact ⟨rfl, Or.inl ⟨rfl, _, rfl⟩⟩
    · cases present
      exact ⟨rfl, Or.inr (Or.inl ⟨rfl, rfl⟩)⟩

theorem variable_ahead (mem : rule ∈ splCompiled) (category : rule.category = .variable)
    (takes : rule.Takes before rest count) :
    ∃ char ∈ [')', ',', '='], (rest.drop count).head? = some char := by
  rcases lookahead_cases mem (Or.inl category) with ⟨ahead, cases⟩
  rw [category] at cases
  rcases cases with ⟨other, -⟩ | ⟨other, -⟩ | ⟨-, program⟩ | ⟨-, program⟩
  · cases other
  · cases other
  · rcases takes.lookahead program rfl ahead (endsGroup_group _) with ⟨char, next, inside⟩
    rw [contains_oneOf_iff] at inside
    exact ⟨char, by simpa using Or.imp_right Or.inl inside, next⟩
  · rcases takes.lookahead program rfl ahead (endsGroup_group _) with ⟨char, next, inside⟩
    rw [CharClass.contains_single, decide_eq_true_eq] at inside
    exact ⟨char, by simp [inside], next⟩

/-- A function name is followed by an opening parenthesis, unless it begins with a backtick and a
backtick follows it too. -/
theorem functionName_ahead (mem : rule ∈ splCompiled) (category : rule.category = .functionName)
    (takes : rule.Takes before rest count) :
    (rest.drop count).head? = some '(' ∨
      ((rest.drop count).head? = some '\x60' ∧ rest.head? = some '\x60') := by
  rcases lookahead_cases mem (Or.inr category) with ⟨ahead, cases⟩
  rw [category] at cases
  rcases cases with ⟨-, words, program⟩ | ⟨-, program⟩ | ⟨other, -⟩ | ⟨other, -⟩
  · have productive : (wholeWord words).isProductive = true := by
      simp [wholeWord, wordGroup, boundary, isProductive, isProductive_anyOf]
    have ends : (wholeWord words).EndsGroup := (endsGroup_group _).seq.look _
    rcases takes.lookahead program productive ahead ends with ⟨char, next, inside⟩
    rw [CharClass.contains_single, decide_eq_true_eq] at inside
    exact Or.inl (inside ▸ next)
  · rcases takes.lookahead program rfl ahead (endsGroup_group _) with ⟨char, next, inside⟩
    rcases contains_oneOf_iff.mp inside with rfl | rfl
    · exact Or.inl next
    · rcases takes.begins program rfl rfl with ⟨first, head, begins⟩
      have backtick : first = '\x60' := by
        simpa [macroName, one, mayBegin, consumes] using begins
      exact Or.inr ⟨next, backtick ▸ head⟩
  · cases other
  · cases other

/-- Where a sign comes next, the first rule that matches is one for operators, and it takes that
character. -/
theorem exists_firstTakes_sign (operator : char ∈ ['|', ',', '(', ')', '='])
    (next : rest.head? = some char) :
    ∃ index rule, Rule.FirstTakes splCompiled before rest index rule 1 ∧
      rule.category = .operator := by
  by_cases equals : char = '='
  · subst equals
    refine ⟨12, _, ⟨rfl, ?_, ?_⟩, rfl⟩
    · exact Rule.takes_set rfl rfl rfl next (by decide)
    · apply noneTakes_take next (by decide)
      intro earlier less
      left
      revert earlier
      decide +kernel
  · have early : ∀ sign ∈ ['|', ',', '(', ')', '='], sign ≠ '=' →
        sign.isAlpha = false ∧ (oneOf '|' [',', '(', ')']).contains sign = true ∧
          ∀ earlier < 7, (mayBeginFlags sign)[earlier]? = some false := by
      simp only [List.forall_mem_cons, List.not_mem_nil, false_implies, implies_true, and_true]
      decide +kernel
    rcases early char operator equals with ⟨alpha, inside, flags⟩
    refine ⟨7, _, ⟨rfl, Rule.takes_set rfl rfl rfl next inside, ?_⟩, rfl⟩
    apply noneTakes_take next alpha
    intro earlier less
    left
    exact flags earlier less

theorem exists_firstTakes_operator (operator : char ∈ ['(', ')', ',', '='])
    (next : rest.head? = some char) :
    ∃ index rule, Rule.FirstTakes splCompiled before rest index rule 1 ∧
      rule.category = .operator := by
  have wider : ∀ sign ∈ ['(', ')', ',', '='], sign ∈ ['|', ',', '(', ')', '='] := by simp
  exact exists_firstTakes_sign (wider char operator) next

theorem active_eq (stack : cursor.stack.toList = [⟨0⟩]) :
    splTable.rulesFor cursor.stack.active = splCompiled := by
  rw [StateStack.toList, List.cons.injEq] at stack
  rw [stack.1]
  rfl

theorem exists_next?_operator (stack : cursor.stack.toList = [⟨0⟩])
    (operator : char ∈ ['(', ')', ',', '=']) (next : cursor.rest.head? = some char) :
    ∃ token after, splTable.next? cursor = some (token, after) ∧ token.category = .operator ∧
      token.text = String.singleton char ∧ token.start = cursor.offset := by
  obtain ⟨index, rule, first, category⟩ : ∃ index rule,
      Rule.FirstTakes splCompiled cursor.before cursor.rest index rule 1 ∧
        rule.category = .operator := exists_firstTakes_operator operator next
  rw [← active_eq stack] at first
  refine ⟨_, _, RuleTable.next?_of_firstTakes first, category, ?_, rfl⟩
  have taken : cursor.rest.take 1 = [char] := by
    rw [List.take_one, next]
    rfl
  rw [RuleTable.tokenAt, taken]
  rfl

theorem followedBy_of_next? {text : String} (source : cursor.source = text.toList)
    (step : splTable.next? cursor = some (token, after)) (next : after.rest.head? = some char) :
    token.FollowedBy text char := by
  rcases List.head?_eq_some_iff.mp next with ⟨rest, remains⟩
  refine ⟨after.before, rest, ?_, ?_⟩
  · rw [← source, ← RuleTable.source_of_next? step, Cursor.source_eq, remains]
  · rw [RuleTable.stop_of_next? step, Cursor.offset_eq_before]

theorem beforeOperator_of_next? {text : String} (stack : after.stack.toList = [⟨0⟩])
    (source : cursor.source = text.toList)
    (step : splTable.next? cursor = some (token, after))
    (later : (splTable.tokenize text)[index + 1]? = (splTable.next? after).map Prod.fst)
    (operator : char ∈ ['(', ')', ',', '=']) (next : after.rest.head? = some char) :
    token.BeforeOperator text (splTable.tokenize text) index char := by
  refine ⟨followedBy_of_next? source step next, ?_⟩
  rcases exists_next?_operator stack operator next with
    ⟨sign, beyond, step', category, text_eq, start⟩
  refine ⟨sign, ?_, category, text_eq, ?_⟩
  · rw [later, step']
    rfl
  · rw [start, RuleTable.stop_of_next? step]

/-- The step that gives a token takes what the first matching rule takes, or a single character in
the fallback category. -/
theorem exists_count_of_next? (stack : cursor.stack.toList = [⟨0⟩])
    (step : splTable.next? cursor = some (token, after)) :
    ∃ count, 0 < count ∧ count ≤ cursor.rest.length ∧
      token.text.toList = cursor.rest.take count ∧ after.rest = cursor.rest.drop count ∧
      ((∃ index rule, Rule.FirstTakes splCompiled cursor.before cursor.rest index rule count ∧
          rule.category = token.category) ∨
        (count = 1 ∧ Rule.NoneTakes splCompiled cursor.before cursor.rest ∧
          token.category = .plainText)) := by
  rcases RuleTable.next?_eq_some_iff.mp step with ⟨taken, remains, -, token_eq, change⟩
  have nonempty := List.length_pos_of_ne_nil change.taken_ne_nil
  have text_eq : token.text.toList = taken := by
    rw [token_eq, RuleTable.tokenOf, String.toList_ofList]
  refine ⟨taken.length, nonempty, ?_, ?_, ?_, ?_⟩
  · simp [remains]
  · simp [remains, text_eq]
  · simp [remains]
  · rw [stack] at change
    generalize category_eq : token.category = category at change
    generalize after.stack.toList = states at change
    rw [remains]
    cases change with
    | matched first =>
        left
        exact ⟨_, _, first, rfl⟩
    | unmatched single none =>
        right
        refine ⟨?_, none, rfl⟩
        rw [single]
        rfl

/-- The rule that gives a token in a category other than the fallback. -/
theorem exists_rule_of_next? (stack : cursor.stack.toList = [⟨0⟩])
    (step : splTable.next? cursor = some (token, after)) (other : token.category ≠ .plainText) :
    ∃ rule ∈ splCompiled, rule.category = token.category ∧
      ∃ count, rule.Takes cursor.before cursor.rest count ∧ after.rest = cursor.rest.drop count ∧
        token.text.toList = cursor.rest.take count := by
  rcases exists_count_of_next? stack step with ⟨count, -, -, text_eq, rest_eq, given⟩
  rcases given with ⟨index, rule, first, category⟩ | ⟨-, -, fallback⟩
  · exact ⟨rule, List.mem_of_getElem? first.present, category, count, first.takes, rest_eq, text_eq⟩
  · exact absurd fallback other

/-- A token in a category that only one rule gives is taken by that rule. -/
theorem exists_firstTakes_of_category (stack : cursor.stack.toList = [⟨0⟩])
    (step : splTable.next? cursor = some (token, after)) (other : token.category ≠ .plainText)
    (only : positionsOf token.category = [index]) :
    ∃ rule count, Rule.FirstTakes splCompiled cursor.before cursor.rest index rule count ∧
      token.text.toList = cursor.rest.take count := by
  rcases exists_count_of_next? stack step with ⟨count, -, -, text_eq, -, given⟩
  rcases given with ⟨place, rule, first, category⟩ | ⟨-, -, fallback⟩
  · have position := mem_positionsOf first.present
    rw [category, only, List.mem_singleton] at position
    exact ⟨rule, count, position ▸ first, text_eq⟩
  · exact absurd fallback other

/-- The characters that a rule for variables or function names looks at become the next token,
except possibly a backtick. -/
theorem lookahead_becomes_operator {table : RuleTable} (built : RuleTable.build spl = .ok table)
    {text : String} (present : (table.tokenize text)[index]? = some token) :
    (token.category = .variable →
      ∃ char ∈ [')', ',', '='], token.BeforeOperator text (table.tokenize text) index char) ∧
    (token.category = .functionName → token.text.toList.head? ≠ some '\x60' →
      token.BeforeOperator text (table.tokenize text) index '(') ∧
    (token.category = .functionName → token.text.toList.head? = some '\x60' →
      token.BeforeOperator text (table.tokenize text) index '(' ∨
        token.FollowedBy text '\x60') := by
  cases eq_splTable built
  rcases exists_step_of_tokenize present with ⟨cursor, after, stack, source, step, stack', later⟩
  have functionName : token.category = .functionName →
      token.BeforeOperator text (splTable.tokenize text) index '(' ∨
        (token.text.toList.head? = some '\x60' ∧ token.FollowedBy text '\x60') := by
    intro category
    rcases exists_rule_of_next? stack step (by rw [category]; decide) with
      ⟨rule, mem, same, count, takes, rest_eq, text_eq⟩
    rcases functionName_ahead mem (same.trans category) takes with next | ⟨next, first⟩
    · exact Or.inl (beforeOperator_of_next? stack' source step later (by decide) (rest_eq ▸ next))
    · refine Or.inr ⟨?_, followedBy_of_next? source step (rest_eq ▸ next)⟩
      rw [text_eq, List.head?_take, if_neg (Nat.pos_iff_ne_zero.mp takes.nonempty), first]
  refine ⟨?_, ?_, ?_⟩
  · intro category
    rcases exists_rule_of_next? stack step (by rw [category]; decide) with
      ⟨rule, mem, same, count, takes, rest_eq, -⟩
    rcases variable_ahead mem (same.trans category) takes with ⟨char, sign, next⟩
    exact ⟨char, sign, beforeOperator_of_next? stack' source step later
      (List.mem_cons_of_mem _ sign) (rest_eq ▸ next)⟩
  · intro category plain
    rcases functionName category with operator | ⟨backtick, -⟩
    · exact operator
    · exact absurd backtick plain
  · intro category _
    exact (functionName category).imp_right And.right

theorem firstTakes_underscore :
    ∃ rule, Rule.FirstTakes splCompiled [] ['_', '='] 11 rule 1 ∧ rule.category = .variable := by
  refine ⟨_, ⟨rfl, ?_, ?_⟩, rfl⟩
  · refine (Rule.takes_iff rfl rfl).mpr ⟨Rule.lookbehindHolds_of_none rfl, ⟨_, rfl, ?_⟩, Nat.one_pos⟩
    exact show _ = _ from rfl
  · refine noneTakes_unless_parameter rfl (by decide) (Or.inr not_standsAsParameter_nil) ?_
    have flags : ∀ earlier < 11, earlier ≠ 10 → (mayBeginFlags '_')[earlier]? = some false := by
      decide +kernel
    exact fun earlier less other => Or.inl (flags earlier less other)

theorem lookahead_becomes_operator_underscore :
    ∃ table token, RuleTable.build spl = .ok table ∧ (table.tokenize "_=")[0]? = some token ∧
      token.category = .variable ∧
        ∃ char ∈ [')', ',', '='], token.BeforeOperator "_=" (table.tokenize "_=") 0 char := by
  rcases firstTakes_underscore with ⟨rule, first, category⟩
  have present := getElem?_zero_of_firstTakes
    (show Rule.FirstTakes splCompiled [] "_=".toList 11 rule 1 from first)
  exact ⟨splTable, _, build_spl, present, category,
    (lookahead_becomes_operator build_spl present).1 category⟩

end Bundled

end RuleLexer
