import RuleLexer.Proofs.Bundled.TokenEnds

/-!
# Escape sequences and operators

A backslash always begins an escape sequence, because no rule before the one for escape sequences
can begin with it, and a sign always is an operator. A sign that a backslash protects is never an
operator: of the tokens that can end in a backslash, an escape sequence is not followed by a
character that it would protect, and a parameter is followed by a closing parenthesis or a comma.
-/

namespace RuleLexer.Bundled

open Regex Expr

variable {following : Option Char} {reading : Reading} {char next : Char}
  {before rest body : List Char} {rule : Rule} {index count : Nat} {cursor after : Cursor}
  {token : Token} {text : String}

/-- Whether a backslash before the character makes an escape sequence with it. -/
def isProtected (char : Char) : Bool := ['|', '*', '='].contains char

/-- The length of the escape sequence that a backslash begins. -/
def escapeLength (body : List Char) : Nat := if body.head?.any isProtected then 2 else 1

theorem escape_eq :
    escape = alt (alt (alt (literal ['\\', '|']) (literal ['\\', '*'])) (literal ['\\', '=']))
      (literal ['\\']) :=
  rfl

/-- The longer sequences are preferred. -/
theorem head?_ways_escape (text_eq : reading.rest = '\\' :: body) :
    (escape.ways following reading).head? = some (reading.skip (escapeLength body)) := by
  rw [escape_eq]
  simp only [ways, ways_literal, text_eq]
  rcases body with _ | ⟨next, body⟩
  · simp [escapeLength]
  · by_cases pipe : next = '|'
    · simp [escapeLength, isProtected, pipe]
    · by_cases star : next = '*'
      · simp [escapeLength, isProtected, star]
      · by_cases equals : next = '='
        · simp [escapeLength, isProtected, equals]
        · simp [escapeLength, isProtected, pipe, star, equals, Ne.symm pipe, Ne.symm star,
            Ne.symm equals]

theorem takes_escape (present : splCompiled[6]? = some rule) :
    rule.Takes before ('\\' :: body) (escapeLength body) := by
  cases present
  refine (Rule.takes_iff rfl rfl).mpr ⟨Rule.lookbehindHolds_of_none rfl, ?_, ?_⟩
  · exact ⟨_, head?_ways_escape rfl, Nat.zero_add _⟩
  · rw [escapeLength]
    split
    · exact Nat.two_pos
    · exact Nat.one_pos

theorem takes_escape_iff (present : splCompiled[6]? = some rule) :
    rule.Takes before rest count ↔ ∃ body, rest = '\\' :: body ∧ count = escapeLength body := by
  constructor
  · intro takes
    have program : rule.program = escape.toProgram := by
      cases present
      rfl
    rcases takes.begins program rfl rfl with ⟨first, head, begins⟩
    have first_eq : first = '\\' := by
      simpa [escape, one, mayBegin, Expr.consumes] using begins
    subst first_eq
    rcases List.head?_eq_some_iff.mp head with ⟨body, rfl⟩
    exact ⟨body, rfl, takes.unique (takes_escape present)⟩
  · rintro ⟨body, rfl, rfl⟩
    exact takes_escape present

theorem exists_firstTakes_escape :
    ∃ rule, Rule.FirstTakes splCompiled before ('\\' :: body) 6 rule (escapeLength body) ∧
      rule.category = .stringEscape := by
  refine ⟨_, ⟨rfl, takes_escape rfl, ?_⟩, rfl⟩
  apply noneTakes_take rfl (by decide)
  intro earlier less
  left
  revert earlier
  decide +kernel

/-- Of the rules, only those for escape sequences and for parameters can end in a backslash. -/
theorem index_of_last_backslash (present : splCompiled[index]? = some rule)
    (takes : rule.Takes before rest count) (last : (rest.take count).getLast? = some '\\') :
    index = 6 ∨ index = 10 := by
  have flags : ∀ index < 17, (mayEndFlags '\\')[index]? = some true → index = 6 ∨ index = 10 := by
    decide +kernel
  have ends := flag_of_last present takes last rfl
  exact flags index (List.getElem?_eq_some_iff.mp ends).1 ends

/-- An escape sequence that ends in a backslash is followed by no character that it would
protect. -/
theorem not_isProtected_of_last (last : (('\\' :: body).take (escapeLength body)).getLast? = some '\\')
    (head : (('\\' :: body).drop (escapeLength body)).head? = some next) :
    isProtected next = false := by
  rw [← Bool.not_eq_true]
  intro protects
  rw [escapeLength] at last head
  rcases body with _ | ⟨first, body⟩
  · cases head
  · by_cases first_protected : isProtected first = true
    · simp only [List.head?_cons, Option.any_some, first_protected, if_true, List.take_succ_cons,
        List.take_zero, List.getLast?_cons_cons, List.getLast?_singleton, Option.some.injEq] at last
      rw [last] at first_protected
      cases first_protected
    · simp only [List.head?_cons, Option.any_some, first_protected, Bool.false_eq_true, if_false,
        List.drop_succ_cons, List.drop_zero, Option.some.injEq] at head
      rw [head] at first_protected
      exact first_protected protects

/-- A token that ends in a backslash is followed neither by a pipe nor by an equals sign. -/
theorem not_sign_after_backslash (stack : cursor.stack.toList = [⟨0⟩])
    (step : splTable.next? cursor = some (token, after))
    (last : after.before.getLast? = some '\\') (head : after.rest.head? = some next) :
    next ≠ '|' ∧ next ≠ '=' := by
  rcases exists_count_of_next? stack step with ⟨count, -, -, text_eq, rest_eq, given⟩
  rw [RuleTable.getLast?_before_of_next? step, text_eq] at last
  rw [rest_eq] at head
  rcases given with ⟨index, rule, first, -⟩ | ⟨rfl, none, -⟩
  · rcases index_of_last_backslash first.present first.takes last with rfl | rfl
    · rcases (takes_escape_iff first.present).mp first.takes with ⟨body, remains, rfl⟩
      rw [remains] at last head
      have unprotected := not_isProtected_of_last last head
      constructor
      · rintro rfl
        cases unprotected
      · rintro rfl
        cases unprotected
    · rcases (takes_parameter_iff first.present).mp first.takes with ⟨stands, -, rfl⟩
      rcases stands.ahead with ⟨limit, ahead, limits⟩
      rw [head] at ahead
      cases ahead
      rcases limits with rfl | rfl
      · decide
      · decide
  · rw [getLast?_take_one] at last
    rcases List.head?_eq_some_iff.mp last with ⟨body, remains⟩
    rw [remains] at none
    exact absurd (takes_escape rfl) (none splCompiled[6] (List.getElem_mem _) _)

/-- A backslash begins an escape sequence, of two characters if it protects the next one, a sign is
an operator, and an operator that a backslash could protect has none before it. -/
theorem escapes_beat_operators {table : RuleTable} (built : RuleTable.build spl = .ok table)
    (mem : token ∈ table.tokenize text) (parts : text.toList = before ++ char :: rest)
    (start : token.start = Text.byteLength before) :
    (char = '\\' → IsNext token .stringEscape before (char :: rest)
      (if rest.head? ∈ [some '|', some '*', some '='] then 2 else 1)) ∧
    (char ∈ ['|', ',', '(', ')', '='] → IsNext token .operator before (char :: rest) 1) ∧
    (token.category = .operator → token.text = "|" ∨ token.text = "=" →
      before.getLast? ≠ some '\\') := by
  cases eq_splTable built
  refine ⟨?_, ?_, ?_⟩
  · rintro rfl
    obtain ⟨rule, first, category⟩ : ∃ rule,
        Rule.FirstTakes splCompiled before ('\\' :: rest) 6 rule (escapeLength rest) ∧
          rule.category = .stringEscape := exists_firstTakes_escape
    have length : escapeLength rest =
        if rest.head? ∈ [some '|', some '*', some '='] then 2 else 1 := by
      rcases rest with _ | ⟨next, rest⟩
      · rfl
      · simp [escapeLength, isProtected]
    rw [← category, ← length]
    exact isNext_of_firstTakes mem parts start first
  · intro operator
    obtain ⟨index, rule, first, category⟩ : ∃ index rule,
        Rule.FirstTakes splCompiled before (char :: rest) index rule 1 ∧ rule.category = .operator :=
      exists_firstTakes_sign operator rfl
    rw [← category]
    exact isNext_of_firstTakes mem parts start first
  · intro _ sign last
    rcases exists_step_before mem with ⟨cursor, after, stack, source, step, behind⟩
    rcases position_of_step source step parts start with ⟨here, -⟩
    have head : cursor.rest.head? = some '|' ∨ cursor.rest.head? = some '=' := by
      rw [RuleTable.text_of_next? step]
      apply sign.imp
      · intro text_eq
        rw [text_eq]
        rfl
      · intro text_eq
        rw [text_eq]
        rfl
    rw [← here] at last
    rcases behind with nothing | ⟨earlier, previous, stack', step'⟩
    · rw [nothing] at last
      cases last
    · rcases head with head | head
      · exact (not_sign_after_backslash stack' step' last head).1 rfl
      · exact (not_sign_after_backslash stack' step' last head).2 rfl

theorem escapes_beat_operators_pipe :
    ∃ table token, RuleTable.build spl = .ok table ∧ token ∈ table.tokenize "\\|=" ∧
      "\\|=".toList = [] ++ '\\' :: ['|', '='] ∧ token.start = Text.byteLength [] ∧
        IsNext token .stringEscape [] ['\\', '|', '='] 2 := by
  obtain ⟨rule, first, -⟩ : ∃ rule, Rule.FirstTakes splCompiled [] "\\|=".toList 6 rule 2 ∧
      rule.category = .stringEscape := exists_firstTakes_escape
  have mem := List.mem_of_getElem? (getElem?_zero_of_firstTakes first)
  have parts : "\\|=".toList = [] ++ '\\' :: ['|', '='] := rfl
  exact ⟨splTable, _, build_spl, mem, parts, rfl,
    (escapes_beat_operators build_spl mem parts rfl).1 rfl⟩

end RuleLexer.Bundled
