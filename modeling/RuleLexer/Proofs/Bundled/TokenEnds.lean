import RuleLexer.Proofs.Bundled.Atomic

/-!
# Where tokens meet

Every token of a scan with the bundled table stands at the start of the text or right after another
one. So what can come before a token is told by the last characters of tokens, and which rule can
give a token with some last character is seen from the expressions of the rules, as it is for the
first character.
-/

namespace RuleLexer.Bundled

open Regex Expr

variable {words : List String} {char : Char} {before rest : List Char} {rule : Rule}
  {index count : Nat} {cursor after : Cursor} {token : Token} {text : String}

/-- What the token of a rule is made of: its whole expression, or the part before the characters
that it looks at. -/
def tokenPart (consumes : Bool) (expr : Expr) : Expr :=
  match consumes, expr with
  | false, .seq front _ => front
  | _, expr => expr

/-- The expression takes some characters as the group and then looks at one more. -/
def LooksAhead (expr : Expr) : Prop :=
  ∃ front chars, expr = seq front (set chars) ∧ front.isProductive = true ∧ front.EndsGroup

theorem looksAhead_call (words : List String) : LooksAhead (call words) := by
  refine ⟨wholeWord words, .single '(', rfl, ?_, ?_⟩
  · simp [wholeWord, wordGroup, boundary, isProductive, isProductive_anyOf]
  · exact (endsGroup_group _).seq.look _

/-- A rule consumes what it matches, or looks at one character behind its token. -/
theorem consumes_or_looksAhead :
    ∀ pair ∈ splRules.zip splExprs, pair.1.consumes = true ∨
      pair.1.consumes = false ∧ LooksAhead pair.2.1 := by
  have group : ∀ body chars, body.isProductive = true →
      LooksAhead (seq (group bodyGroup body) (set chars)) := by
    intro body chars productive
    exact ⟨_, chars, rfl, productive, endsGroup_group body⟩
  simp only [splRules, splExprs, List.zip_cons_cons, List.zip_nil_right, List.forall_mem_cons,
    List.not_mem_nil, false_implies, implies_true, and_true, true_or, true_and, reduceCtorEq,
    false_or]
  refine ⟨looksAhead_call _, looksAhead_call _, ?_, ?_, ?_⟩
  all_goals
    apply group
    rfl

/-- Words are made of plain characters. -/
theorem mayEnd_wordGroup (known : words ∈ wordLists) (other : isPlain char = false) :
    (wordGroup words).mayEnd char = false := by
  rw [← Bool.not_eq_true]
  intro ends
  rcases exists_word_of_mayEnd ends with ⟨word, mem, inside⟩
  rcases List.mem_map.mp mem with ⟨text, text_mem, rfl⟩
  have plain := (plain_of_isWord ((words_of_mem_wordLists known).2 text text_mem)).2 char inside
  rw [other] at plain
  cases plain

/-- Whether the token of each rule may end with a character that belongs to no word. -/
def mayEndFlags (char : Char) : List Bool :=
  [false, false, false, false, wordChars.contains char, number.mayEnd char, escape.mayEnd char,
   sign.mayEnd char, false, false, parameterChars.contains char,
   (tokenPart false field).mayEnd char, (one '=').mayEnd char, (quoted '"').mayEnd char,
   (quoted '\'').mayEnd char, comment.mayEnd char, gap.mayEnd char]

theorem map_mayEnd (other : isPlain char = false) :
    ((splRules.zip splExprs).map fun pair =>
      (tokenPart pair.1.consumes pair.2.1).mayEnd char) = mayEndFlags char := by
  have known : ∀ words ∈ wordLists, (wordGroup words).mayEnd char = false :=
    fun _ mem => mayEnd_wordGroup mem other
  simp only [wordLists, List.forall_mem_cons, List.not_mem_nil, false_implies, implies_true,
    and_true] at known
  simp [splRules, splExprs, mayEndFlags, tokenPart, wordBefore, wholeWord, call, boundary, mayEnd,
    known, macroName, parameter, one, consumes]

/-- What a rule takes ends as its token may end. -/
theorem flag_of_last (present : splCompiled[index]? = some rule)
    (takes : rule.Takes before rest count) (last : (rest.take count).getLast? = some char)
    (other : isPlain char = false) : (mayEndFlags char)[index]? = some true := by
  rw [splCompiled, List.getElem?_map, Option.map_eq_some_iff] at present
  rcases present with ⟨⟨definition, exprs⟩, present, rfl⟩
  have mem := List.mem_of_getElem? present
  have productive := (splExprs_consume exprs (List.of_mem_zip mem).2).1
  have ends : ∃ char, (rest.take count).getLast? = some char ∧
      (tokenPart definition.consumes exprs.1).mayEnd char = true := by
    rcases consumes_or_looksAhead _ mem with consumes | ⟨ahead, front, chars, expr, productive, group⟩
    · have part : tokenPart definition.consumes exprs.1 = exprs.1 := by
        rw [consumes]
        rfl
      rw [part]
      exact takes.ends rfl productive consumes
    · have part : tokenPart definition.consumes exprs.1 = front := by
        rw [ahead, expr]
        rfl
      rw [part]
      exact takes.ends_ahead (congrArg toProgram expr) productive ahead group
  rcases ends with ⟨_, last', ends⟩
  rw [last] at last'
  cases last'
  rw [← map_mayEnd other, List.getElem?_map, present, Option.map_some, ends]

/-- A single character is the first one and the last. -/
theorem getLast?_take_one : (rest.take 1).getLast? = rest.head? := by
  cases rest <;> rfl

/-- A token stands at the start of the text, or the step before the one that gives it leads
there. -/
theorem exists_step_before (mem : token ∈ splTable.tokenize text) :
    ∃ cursor after : Cursor, cursor.stack.toList = [⟨0⟩] ∧ cursor.source = text.toList ∧
      splTable.next? cursor = some (token, after) ∧
        (cursor.before = [] ∨ ∃ earlier previous, earlier.stack.toList = [⟨0⟩] ∧
          splTable.next? earlier = some (previous, cursor)) := by
  rcases List.mem_iff_getElem?.mp mem with ⟨place, present⟩
  rcases place with _ | place
  · rw [RuleTable.tokens_tokenize, head?_steps, Option.map_eq_some_iff] at present
    rcases present with ⟨⟨first, after⟩, step, rfl⟩
    exact ⟨splTable.cursor text, after, rfl, rfl, step, Or.inl rfl⟩
  · have less : place < (splTable.tokenize text).length := by
      have := (List.getElem?_eq_some_iff.mp present).1
      omega
    rcases exists_step_of_tokenize (List.getElem?_eq_getElem less) with
      ⟨earlier, cursor, stack, source, previous, stack', later⟩
    rw [present] at later
    rcases Option.map_eq_some_iff.mp later.symm with ⟨⟨_, after⟩, step, rfl⟩
    have source' := (RuleTable.source_of_next? previous).trans source
    exact ⟨cursor, after, stack', source', step, Or.inr ⟨earlier, _, stack, previous⟩⟩

end RuleLexer.Bundled
