import RuleLexer.Proofs.Bundled.Expressions
import RuleLexer.Proofs.Scan.RuleWays
import RuleLexer.Proofs.Scan.Run

/-!
# Where the bundled rules can match

None of the bundled rules changes the state, so all of them are tried at every position. Which of
them can match at all depends on the next character: the words of the rules begin with letters, and
what the other rules begin with can be computed.
-/

namespace RuleLexer.Bundled

open Regex Expr

variable {words : List String} {char : Char} {before rest : List Char} {rule : Rule}
  {index count : Nat}

theorem contains_oneOf_iff {first other : Char} :
    (oneOf first [other]).contains char = true ↔ char = first ∨ char = other := by
  simp [oneOf, CharClass.contains]

theorem head?_of_mayBegin_literal {word : List Char} (begins : (literal word).mayBegin char = true) :
    word.head? = some char := by
  rcases word with _ | ⟨first, others⟩
  · cases begins
  · have same : (literal (first :: others)).consumes = true ∧
        ((literal (first :: others)).mayBegin char = true → char = first) := by
      rw [literal]
      refine List.foldlRecOn (motive := fun front : Expr =>
        front.consumes = true ∧ (front.mayBegin char = true → char = first)) others _
          ⟨rfl, by simp [mayBegin]⟩ ?_
      rintro front ⟨consuming, same⟩ next -
      refine ⟨by rw [consumes, consuming, Bool.true_or], ?_⟩
      intro begins
      rw [mayBegin, consuming] at begins
      exact same (by simpa using begins)
    rw [same.2 begins, List.head?_cons]

theorem exists_word_of_mayBegin {words : List (List Char)}
    (begins : (anyOf words).mayBegin char = true) : ∃ word ∈ words, word.head? = some char := by
  rcases words with _ | ⟨first, others⟩
  · cases begins
  · rw [anyOf] at begins
    revert begins
    refine List.foldlRecOn (motive := fun front : Expr => front.mayBegin char = true →
      ∃ word ∈ first :: others, word.head? = some char) others _ ?_ ?_
    · intro begins
      exact ⟨first, List.mem_cons_self, head?_of_mayBegin_literal begins⟩
    · intro front ih word mem begins
      rw [mayBegin, Bool.or_eq_true] at begins
      rcases begins with begins | begins
      · exact ih begins
      · exact ⟨word, List.mem_cons_of_mem _ mem, head?_of_mayBegin_literal begins⟩

/-- Words begin with letters. -/
theorem mayBegin_wordGroup (known : words ∈ wordLists) (other : char.isAlpha = false) :
    (wordGroup words).mayBegin char = false := by
  rw [← Bool.not_eq_true]
  intro begins
  rcases exists_word_of_mayBegin begins with ⟨word, mem, head⟩
  rcases List.mem_map.mp mem with ⟨text, text_mem, rfl⟩
  have isWord_text := (words_of_mem_wordLists known).2 text text_mem
  rcases toList_eq : text.toList with _ | ⟨first, others⟩
  · rw [toList_eq] at head
    cases head
  · rw [toList_eq, isWord, Bool.and_eq_true] at isWord_text
    rw [toList_eq, List.head?_cons] at head
    rw [Option.some.inj head, other] at isWord_text
    cases isWord_text.1

/-- Whether each of the rules may begin with a character that is no letter. -/
def mayBeginFlags (char : Char) : List Bool :=
  [false, false, false, false, macroName.mayBegin char, number.mayBegin char,
   escape.mayBegin char, sign.mayBegin char, false, false, parameter.mayBegin char,
   field.mayBegin char, (one '=').mayBegin char, (quoted '"').mayBegin char,
   (quoted '\'').mayBegin char, comment.mayBegin char, gap.mayBegin char]

theorem consumes_wordGroup (known : words ∈ wordLists) : (wordGroup words).consumes = true := by
  rcases words_of_mem_wordLists known with ⟨nonempty, areWords⟩
  refine consumes_anyOf (by simpa using nonempty) ?_
  intro word mem
  rcases List.mem_map.mp mem with ⟨text, text_mem, rfl⟩
  exact (plain_of_isWord (areWords text text_mem)).1

theorem map_mayBegin (other : char.isAlpha = false) :
    splExprs.map (fun exprs => exprs.1.mayBegin char) = mayBeginFlags char := by
  have known : ∀ words ∈ wordLists, (wordGroup words).mayBegin char = false ∧
      (wordGroup words).consumes = true :=
    fun _ mem => ⟨mayBegin_wordGroup mem other, consumes_wordGroup mem⟩
  simp only [wordLists, List.forall_mem_cons, List.not_mem_nil, false_implies, implies_true,
    and_true] at known
  simp [splExprs, mayBeginFlags, wordBefore, wholeWord, call, boundary, mayBegin, consumes, known]

/-- Every rule takes characters, and every round of its loops does. -/
theorem splExprs_consume :
    ∀ exprs ∈ splExprs, exprs.1.isProductive = true ∧ exprs.1.consumes = true := by
  have groups : ∀ words ∈ wordLists, (wordGroup words).isProductive = true ∧
      (wordGroup words).consumes = true :=
    fun _ mem => ⟨isProductive_anyOf _, consumes_wordGroup mem⟩
  simp only [wordLists, splExprs, List.forall_mem_cons, List.not_mem_nil, false_implies,
    implies_true, and_true] at groups ⊢
  refine ⟨?_, ?_, ?_, ?_, ⟨rfl, rfl⟩, ⟨rfl, rfl⟩, ⟨rfl, rfl⟩, ⟨rfl, rfl⟩, ?_, ?_, ⟨rfl, rfl⟩,
    ⟨rfl, rfl⟩, ⟨rfl, rfl⟩, ⟨rfl, rfl⟩, ⟨rfl, rfl⟩, ⟨rfl, rfl⟩, ⟨rfl, rfl⟩⟩
  all_goals
    simp [wordBefore, wholeWord, call, boundary, one, isProductive, consumes, groups]

theorem getElem?_splCompiled (present : splCompiled[index]? = some rule) :
    ∃ definition exprs, splRules[index]? = some definition ∧ splExprs[index]? = some exprs ∧
      rule = compileAs definition exprs := by
  rw [splCompiled, List.getElem?_map, Option.map_eq_some_iff] at present
  rcases present with ⟨⟨definition, exprs⟩, pair, rfl⟩
  rw [List.getElem?_zip_eq_some] at pair
  exact ⟨definition, exprs, pair.1, pair.2, rfl⟩

/-- The positions of the rules of a category. -/
def positionsOf (category : Category) : List Nat :=
  (List.range splRules.length).filter fun index =>
    splRules[index]?.map RuleDef.category == some category

theorem mem_positionsOf (present : splCompiled[index]? = some rule) :
    index ∈ positionsOf rule.category := by
  rcases getElem?_splCompiled present with ⟨definition, exprs, found, -, rfl⟩
  apply List.mem_filter.mpr
  constructor
  · exact List.mem_range.mpr (List.getElem?_eq_some_iff.mp found).1
  · simp [found, compileAs]

theorem exists_position_of_mem (mem : rule ∈ splCompiled) :
    ∃ index ∈ positionsOf rule.category, splCompiled[index]? = some rule := by
  rcases List.mem_iff_getElem?.mp mem with ⟨index, present⟩
  exact ⟨index, mem_positionsOf present, present⟩

theorem transition_of_mem (mem : rule ∈ splCompiled) : rule.transition = none := by
  rw [splCompiled, List.mem_map] at mem
  rcases mem with ⟨pair, -, rfl⟩
  rfl

/-- A rule that may not begin with the next character takes nothing. -/
theorem not_takes_of_flag (next : rest.head? = some char) (other : char.isAlpha = false)
    (present : splCompiled[index]? = some rule)
    (never : (mayBeginFlags char)[index]? = some false) : ¬rule.Takes before rest count := by
  rcases getElem?_splCompiled present with ⟨definition, exprs, -, found, rfl⟩
  have expr := splExprs_consume exprs (List.mem_of_getElem? found)
  intro takes
  rcases takes.begins rfl expr.1 expr.2 with ⟨head, head_eq, begins⟩
  rw [next] at head_eq
  rw [← map_mayBegin other, List.getElem?_map, found, Option.map_some, Option.some.inj head_eq,
    begins] at never
  cases never

/-- No rule before a position takes anything if each of them may not begin with the next character
or takes nothing for another reason. -/
theorem noneTakes_take (next : rest.head? = some char) (other : char.isAlpha = false)
    (each : ∀ earlier < index, (mayBeginFlags char)[earlier]? = some false ∨
      ∀ rule, splCompiled[earlier]? = some rule → ∀ count, ¬rule.Takes before rest count) :
    Rule.NoneTakes (splCompiled.take index) before rest := by
  intro rule mem count
  rcases List.mem_iff_getElem?.mp mem with ⟨earlier, found⟩
  rw [List.getElem?_take] at found
  split at found
  · rename_i less
    rcases each earlier less with never | fails
    · exact not_takes_of_flag next other found never
    · exact fails rule found count
  · cases found

variable {cursor after : Cursor} {token : Token}

/-- A scan with the bundled table stays in its only state. -/
theorem stack_of_next?_spl (start : cursor.stack.toList = [⟨0⟩])
    (step : splTable.next? cursor = some (token, after)) : after.stack.toList = [⟨0⟩] := by
  rcases RuleTable.next?_eq_some_iff.mp step with ⟨taken, -, -, -, step⟩
  rw [start] at step
  generalize after.stack.toList = states at step
  generalize token.category = category at step
  cases step with
  | matched first =>
      rw [transition_of_mem (List.mem_of_getElem? first.present)]
      rfl
  | unmatched single none =>
      split <;> rfl

theorem head?_steps (table : RuleTable) (cursor : Cursor) :
    ((table.steps cursor).map Prod.fst)[0]? = (table.next? cursor).map Prod.fst := by
  cases step : table.next? cursor with
  | none =>
      rw [RuleTable.steps_of_none step]
      rfl
  | some next =>
      rw [RuleTable.steps_of_some step]
      rfl

/-- Every token of a scan with the bundled table is given by a step in its only state, and the token
after it by the next step. -/
theorem exists_step_of_tokenize {text : String}
    (present : (splTable.tokenize text)[index]? = some token) :
    ∃ cursor after, cursor.stack.toList = [⟨0⟩] ∧ cursor.source = text.toList ∧
      splTable.next? cursor = some (token, after) ∧ after.stack.toList = [⟨0⟩] ∧
        (splTable.tokenize text)[index + 1]? = (splTable.next? after).map Prod.fst := by
  rw [RuleTable.tokens_tokenize] at present ⊢
  have steps : ∀ start : Cursor, start.stack.toList = [⟨0⟩] → start.source = text.toList →
      ∀ index, ((splTable.steps start).map Prod.fst)[index]? = some token →
        ∃ cursor after, cursor.stack.toList = [⟨0⟩] ∧ cursor.source = text.toList ∧
          splTable.next? cursor = some (token, after) ∧ after.stack.toList = [⟨0⟩] ∧
            ((splTable.steps start).map Prod.fst)[index + 1]? =
              (splTable.next? after).map Prod.fst := by
    intro start
    refine RuleTable.steps_induction (motive := fun start steps =>
      start.stack.toList = [⟨0⟩] → start.source = text.toList →
        ∀ index, (steps.map Prod.fst)[index]? = some token →
          ∃ cursor after, cursor.stack.toList = [⟨0⟩] ∧ cursor.source = text.toList ∧
            splTable.next? cursor = some (token, after) ∧ after.stack.toList = [⟨0⟩] ∧
              (steps.map Prod.fst)[index + 1]? = (splTable.next? after).map Prod.fst) ?_ ?_ start
    · intro cursor ended stack source index present
      cases present
    · intro cursor first after step ih stack source index present
      have stack' := stack_of_next?_spl stack step
      cases index with
      | zero =>
          cases present
          exact ⟨cursor, after, stack, source, step, stack', head?_steps splTable after⟩
      | succ index =>
          exact ih stack' ((RuleTable.source_of_next? step).trans source) index present
  exact steps _ rfl rfl index present

/-- The first rule that matches at the start of a text gives the first token. -/
theorem getElem?_zero_of_firstTakes {text : String}
    (first : Rule.FirstTakes splCompiled [] text.toList index rule count) :
    (splTable.tokenize text)[0]? =
      some (RuleTable.tokenAt (splTable.cursor text) rule.category count) := by
  have active : splTable.rulesFor (splTable.cursor text).stack.active = splCompiled := rfl
  have first : Rule.FirstTakes (splTable.rulesFor (splTable.cursor text).stack.active)
      (splTable.cursor text).before (splTable.cursor text).rest index rule count := by
    rw [active]
    exact first
  rw [RuleTable.tokens_tokenize, head?_steps, RuleTable.next?_of_firstTakes first]
  rfl

/-- Where no rule matches at the start of a text, its first character is the first token. -/
theorem getElem?_zero_of_noneTakes {text : String} (remains : text.toList = char :: rest)
    (none : Rule.NoneTakes splCompiled [] text.toList) :
    (splTable.tokenize text)[0]? =
      some (RuleTable.tokenAt (splTable.cursor text) .plainText 1) := by
  have active : splTable.rulesFor (splTable.cursor text).stack.active = splCompiled := rfl
  have none : Rule.NoneTakes (splTable.rulesFor (splTable.cursor text).stack.active)
      (splTable.cursor text).before (splTable.cursor text).rest := by
    rw [active]
    exact none
  rw [RuleTable.tokens_tokenize, head?_steps, RuleTable.next?_of_noneTakes remains none]
  rfl

end RuleLexer.Bundled
