import RuleLexer.Proofs.Bundled.TokenEnds
import RuleLexer.Proofs.Scan.Stack
import RuleLexer.Proofs.Unicode.Stretch

/-!
# Plain text

White space is taken in runs, and what no rule matches is a single character that is no white space.
A run cannot begin behind white space: of the tokens that can end in it, another run has ended only
where no white space follows, and a name that has taken the blanks after it is followed by a sign.
-/

namespace RuleLexer.Bundled

open Regex Expr

variable {char : Char} {before rest : List Char} {rule : Rule} {index count : Nat}
  {cursor after : Cursor} {token : Token} {text : String}

/-- The length of the longest run of white space. -/
def gapLength (text : List Char) : Nat := (text.takeWhile isBlank).length

/-- A part of a text is a run of white space that cannot be made longer on either side, or a single
character that is no white space. -/
inductive StandsAsPlainText (before part rest : List Char) : Prop
  | gap (nonempty : part ≠ []) (blank : ∀ char ∈ part, isBlank char = true)
      (behind : before.getLast?.any isBlank = false) (ahead : rest.head?.any isBlank = false)
  | single {char : Char} (alone : part = [char]) (visible : isBlank char = false)

theorem takes_gap_iff (present : splCompiled[16]? = some rule) :
    rule.Takes before rest count ↔ 0 < gapLength rest ∧ count = gapLength rest := by
  cases present
  rw [Rule.takes_iff_of_preferred rfl rfl rfl rfl fun _ => head?_ways_run_iff]
  constructor
  · rintro ⟨nonempty, -, same⟩
    exact ⟨nonempty, same⟩
  · rintro ⟨nonempty, rfl⟩
    exact ⟨nonempty, nonempty, rfl⟩

theorem gapLength_pos_iff : 0 < gapLength rest ↔ rest.head?.any isBlank = true := by
  rcases rest with _ | ⟨char, rest⟩
  · simp [gapLength]
  · by_cases blank : isBlank char = true
    · simp [gapLength, blank]
    · simp [gapLength, blank]

/-- White space is never left to the fallback. -/
theorem isBlank_of_noneTakes (none : Rule.NoneTakes splCompiled before (char :: rest)) :
    isBlank char = false := by
  rw [← Bool.not_eq_true]
  intro blank
  apply none splCompiled[16] (List.getElem_mem _) (gapLength (char :: rest))
  exact (takes_gap_iff rfl).mpr ⟨gapLength_pos_iff.mpr blank, rfl⟩

/-- Rules that look ahead look at signs. -/
theorem not_blank_after_lookahead (mem : rule ∈ splCompiled) (ahead : rule.consumes = false)
    (takes : rule.Takes before rest count) : (rest.drop count).head?.any isBlank = false := by
  have categories : ∀ definition ∈ splRules, definition.consumes = false →
      definition.category = .variable ∨ definition.category = .functionName := by
    decide
  have visible : ∀ sign ∈ [')', ',', '=', '(', '\x60'], isBlank sign = false := by
    simp only [List.forall_mem_cons, List.not_mem_nil, false_implies, implies_true, and_true]
    decide +kernel
  rcases List.mem_iff_getElem?.mp mem with ⟨index, present⟩
  rcases getElem?_splCompiled present with ⟨definition, exprs, found, -, same⟩
  rw [same] at ahead
  have category := categories definition (List.mem_of_getElem? found) ahead
  have category_eq : rule.category = definition.category := by rw [same, compileAs]
  rw [← category_eq] at category
  rcases category with category | category
  · rcases variable_ahead mem category takes with ⟨sign, known, head⟩
    rw [head, Option.any_some]
    exact visible sign (List.mem_append_left ['(', '\x60'] known)
  · rcases functionName_ahead mem category takes with head | ⟨head, -⟩
    · rw [head, Option.any_some]
      exact visible '(' (by decide)
    · rw [head, Option.any_some]
      exact visible '\x60' (by decide)

/-- Of the rules that consume what they match, only that for white space can end in white space. -/
theorem index_of_last_blank (present : splCompiled[index]? = some rule)
    (consumes : rule.consumes = true) (takes : rule.Takes before rest count)
    (last : (rest.take count).getLast? = some char) (blank : isBlank char = true) : index = 16 := by
  have flags : isPlain char = false ∧ ∀ index < 17,
      splRules[index]?.map RuleDef.consumes = some true → index ≠ 16 →
        (mayEndFlags char)[index]? = some false := by
    apply Unicode.Table.forall_of_codes ?_ blank
    decide +kernel
  have ends := flag_of_last present takes last flags.1
  rcases getElem?_splCompiled present with ⟨definition, exprs, found, -, rfl⟩
  have known : splRules[index]?.map RuleDef.consumes = some true := by
    rw [found]
    exact congrArg some consumes
  by_contra other
  rw [flags.2 index (List.getElem?_eq_some_iff.mp ends).1 known other] at ends
  cases ends

/-- A token that ends in white space is followed by none. -/
theorem not_blank_after_blank (stack : cursor.stack.toList = [⟨0⟩])
    (step : splTable.next? cursor = some (token, after))
    (last : after.before.getLast?.any isBlank = true) : after.rest.head?.any isBlank = false := by
  rcases exists_count_of_next? stack step with ⟨count, -, -, text_eq, rest_eq, given⟩
  rw [RuleTable.getLast?_before_of_next? step, text_eq, Option.any_eq_true] at last
  rcases last with ⟨char, last, blank⟩
  rw [rest_eq]
  rcases given with ⟨index, rule, first, -⟩ | ⟨rfl, none, -⟩
  · by_cases consumes : rule.consumes = true
    · obtain rfl := index_of_last_blank first.present consumes first.takes last blank
      rcases (takes_gap_iff first.present).mp first.takes with ⟨-, rfl⟩
      exact blanks.any_head?_drop_runLength cursor.rest
    · have mem := List.mem_of_getElem? first.present
      exact not_blank_after_lookahead mem (Bool.not_eq_true _ ▸ consumes) first.takes
  · rw [getLast?_take_one] at last
    rcases List.head?_eq_some_iff.mp last with ⟨body, remains⟩
    rw [remains] at none
    rw [isBlank_of_noneTakes none] at blank
    cases blank

theorem stack_cursorAfter_spl (text : String) (calls : Nat) :
    (splTable.cursorAfter (splTable.cursor text) calls).stack.toList = [⟨0⟩] := by
  induction calls with
  | zero => rfl
  | succ calls ih =>
      rw [RuleTable.cursorAfter]
      split
      · rename_i token after step
        exact stack_of_next?_spl ih step
      · exact ih

/-- Plain text is a whole run of white space or a single other character, and no line feed is left
to the fallback, so that none leads back to the entry state. -/
theorem plainText_shape {table : RuleTable} (built : RuleTable.build spl = .ok table)
    (text : String) :
    (∀ token ∈ table.tokenize text, token.category = .plainText →
      ∃ before rest, text.toList = before ++ (token.text.toList ++ rest) ∧
        token.start = Text.byteLength before ∧
        StandsAsPlainText before token.text.toList rest) ∧
      ∀ calls, ¬table.AtUnmatchedNewline (table.cursorAfter (table.cursor text) calls) := by
  cases eq_splTable built
  constructor
  · intro token mem plain
    rcases exists_step_before mem with ⟨cursor, after, stack, source, step, behind⟩
    rcases exists_count_of_next? stack step with ⟨count, nonempty, within, text_eq, rest_eq, given⟩
    refine ⟨cursor.before, after.rest, ?_, ?_, ?_⟩
    · rw [← source, Cursor.source_eq, RuleTable.text_of_next? step]
    · rw [RuleTable.start_of_next? step, Cursor.offset_eq_before]
    · rw [plain] at given
      rcases given with ⟨index, rule, first, category⟩ | ⟨rfl, none, -⟩
      · have position := mem_positionsOf first.present
        rw [category] at position
        obtain rfl : index = 16 := List.mem_singleton.mp position
        rcases (takes_gap_iff first.present).mp first.takes with ⟨begins, rfl⟩
        have run : token.text.toList = cursor.rest.takeWhile isBlank :=
          text_eq.trans (blanks.take_runLength cursor.rest)
        refine .gap ?_ ?_ ?_ ?_
        · apply List.ne_nil_of_length_pos
          rwa [run]
        · intro char inside
          rw [run] at inside
          exact List.all_eq_true.mp List.all_takeWhile char inside
        · rcases behind with nothing | ⟨earlier, previous, stack', step'⟩
          · rw [nothing]
            rfl
          · rw [← Bool.not_eq_true]
            intro last
            have visible := not_blank_after_blank stack' step' last
            rw [gapLength_pos_iff.mp begins] at visible
            cases visible
        · rw [rest_eq]
          exact blanks.any_head?_drop_runLength cursor.rest
      · rcases remains : cursor.rest with _ | ⟨char, body⟩
        · rw [remains] at within
          cases within
        · rw [remains] at none text_eq
          exact .single text_eq (isBlank_of_noneTakes none)
  · rintro calls ⟨newline, none⟩
    rw [active_eq (stack_cursorAfter_spl text calls)] at none
    rcases List.head?_eq_some_iff.mp newline with ⟨rest, remains⟩
    rw [remains] at none
    have visible := isBlank_of_noneTakes none
    cases visible

theorem plainText_shape_newline :
    ∃ table token, RuleTable.build spl = .ok table ∧ token ∈ table.tokenize "\n x" ∧
      token.category = .plainText ∧
      (∃ before rest, "\n x".toList = before ++ (token.text.toList ++ rest) ∧
        token.start = Text.byteLength before ∧
        StandsAsPlainText before token.text.toList rest) ∧
      ¬table.AtUnmatchedNewline (table.cursor "\n x") := by
  have flags : ∀ earlier < 16, (mayBeginFlags '\n')[earlier]? = some false := by decide +kernel
  have first : Rule.FirstTakes splCompiled [] "\n x".toList 16 splCompiled[16] 2 := by
    refine ⟨rfl, (takes_gap_iff rfl).mpr ⟨by decide +kernel, by decide +kernel⟩, ?_⟩
    apply noneTakes_take (show "\n x".toList.head? = some '\n' from rfl) rfl
    intro earlier less
    left
    exact flags earlier less
  have mem := List.mem_of_getElem? (getElem?_zero_of_firstTakes first)
  have shape := plainText_shape build_spl "\n x"
  exact ⟨splTable, _, build_spl, mem, rfl, shape.1 _ mem rfl, shape.2 0⟩

end RuleLexer.Bundled
