import RuleLexer.Proofs.Bundled.Rules
import RuleLexer.Proofs.Regex.Runs

/-!
# Quoted texts and comments

Where a quoted text and a comment end: at the first quote outside an escape sequence, and after the
first three backticks. The patterns try more than that, because a backslash is also a character like
any other to them, but the reading that they prefer is this one.
-/

namespace RuleLexer.Bundled

open Regex Expr

/-- The number of characters before the first quote that is not escaped. A backslash with a
backslash or a quote after it is read as one unit. -/
def closingQuote? (quote : Char) : List Char → Option Nat
  | [] => none
  | '\\' :: next :: rest =>
    if next = '\\' ∨ next = quote then (closingQuote? quote rest).map (· + 2)
    else (closingQuote? quote (next :: rest)).map (· + 1)
  | char :: rest => if char = quote then some 0 else (closingQuote? quote rest).map (· + 1)

def backticks : List Char := ['\x60', '\x60', '\x60']

/-- The first three backticks come after `count` characters. -/
structure FenceAfter (body : List Char) (count : Nat) : Prop where
  closes : backticks <+: body.drop count
  first : ∀ earlier < count, ¬backticks <+: body.drop earlier

variable {following : Option Char} {reading : Reading} {quote char next : Char}
  {before rest body : List Char} {rule : Rule} {count : Nat}

/-- The lengths of the units that can be read in a quoted text: an escape sequence if there is one,
and a single character that is no quote. -/
def unitLengths (quote : Char) (text : List Char) : List Nat :=
  (if ['\\', '\\'] <+: text then [2] else []) ++ (if ['\\', quote] <+: text then [2] else []) ++
    if text.head?.any (· != quote) then [1] else []

/-- An escape sequence is read as one unit before it is read otherwise. -/
theorem unitLengths_escaped (noEscape : quote ≠ '\\') (escaped : next = '\\' ∨ next = quote) :
    ∃ others, unitLengths quote ('\\' :: next :: rest) = 2 :: others := by
  by_cases backslash : next = '\\'
  · simp [unitLengths, backslash]
  · have same := escaped.resolve_left backslash
    simp [unitLengths, same, Ne.symm noEscape]

theorem unitLengths_backslash (noEscape : quote ≠ '\\') (plain : ¬(next = '\\' ∨ next = quote)) :
    unitLengths quote ('\\' :: next :: rest) = [1] := by
  rw [not_or] at plain
  simp [unitLengths, Ne.symm plain.1, Ne.symm plain.2, Ne.symm noEscape]

theorem unitLengths_other (plain : ∀ next tail, char = '\\' → rest = next :: tail → False)
    (other : char ≠ quote) : unitLengths quote (char :: rest) = [1] := by
  have single : ∀ second, ¬['\\', second] <+: char :: rest := by
    intro second pair
    rcases rest with _ | ⟨next, rest⟩
    · simp at pair
    · simp only [List.cons_prefix_cons] at pair
      exact plain next rest pair.1.symm rfl
  simp [unitLengths, single, other]

theorem ways_quotedUnit (reading : Reading) :
    (quotedUnit quote).ways following reading =
      (unitLengths quote reading.rest).map fun count =>
        ((reading.record .start).skip count).record .stop := by
  have outside : (CharClass.compl (.single quote)).contains = (· != quote) := by
    funext char
    simp [CharClass.contains, CharClass.contains_single, bne, Bool.beq_eq_decide_eq]
  have inside : ∀ reading : Reading,
      ((literal ['\\', '\\']).ways following reading ++
        (literal ['\\', quote]).ways following reading) ++
          (set (.compl (.single quote))).ways following reading =
            (unitLengths quote reading.rest).map reading.skip := by
    intro reading
    rw [ways_literal, ways_literal, ways_set_eq_skip, outside, unitLengths, List.map_append,
      List.map_append]
    simp only [apply_ite (List.map reading.skip), List.map_cons, List.map_nil, List.length_cons,
      List.length_nil, Nat.zero_add, Nat.reduceAdd]
  have same := congrArg (List.map (·.record .stop)) (inside (reading.record .start))
  rw [List.map_map] at same
  exact same

/-- What is found after the preferred unit is found first. -/
theorem exists_ways_unit {length inner : Nat} {others : List Nat}
    (lengths : unitLengths quote reading.rest = length :: others)
    (later : ∃ after, ((seq (star true (quotedUnit quote)) (one quote)).ways following
      (((reading.record .start).skip length).record .stop)).head? = some after ∧
        after.position = reading.position + length + inner + 1) :
    ∃ after, ((seq (star true (quotedUnit quote)) (one quote)).ways following reading).head? =
      some after ∧ after.position = reading.position + (inner + length) + 1 := by
  rcases later with ⟨after, later, position⟩
  refine ⟨after, ?_, by omega⟩
  rw [ways_seq_star_greedy rfl, ways_quotedUnit, lengths, List.map_cons, List.flatMap_cons,
    List.append_assoc, List.head?_append, later]
  rfl

/-- A loop over units before a quote stops at the first quote that is not escaped. -/
theorem exists_ways_quoted (noEscape : quote ≠ '\\') (reading : Reading)
    (closes : closingQuote? quote reading.rest = some count) :
    ∃ after, ((seq (star true (quotedUnit quote)) (one quote)).ways following reading).head? =
      some after ∧ after.position = reading.position + count + 1 := by
  generalize text_eq : reading.rest = text at closes
  -- Along the search for the closing quote: at every unit before it, the first length in
  -- `unitLengths` is the step of the search, so the shorter reading of an escape is never needed.
  fun_induction closingQuote? quote text generalizing reading count with
  | case1 => cases closes
  | case2 next rest escaped ih =>
      rcases Option.map_eq_some_iff.mp closes with ⟨inner, inner_closes, rfl⟩
      rcases unitLengths_escaped noEscape escaped with ⟨others, lengths⟩
      rw [← text_eq] at lengths
      exact exists_ways_unit lengths (ih _ (by simp [text_eq]) inner_closes)
  | case3 next rest plain ih =>
      rcases Option.map_eq_some_iff.mp closes with ⟨inner, inner_closes, rfl⟩
      have lengths : unitLengths quote reading.rest = [1] := by
        rw [text_eq]
        exact unitLengths_backslash noEscape plain
      exact exists_ways_unit lengths (ih _ (by simp [text_eq]) inner_closes)
  | case4 rest plain =>
      cases closes
      have lengths : unitLengths quote reading.rest = [] := by
        simp [unitLengths, text_eq, Ne.symm noEscape]
      refine ⟨reading.skip 1, ?_, rfl⟩
      rw [ways_seq_star_greedy rfl, ways_quotedUnit, lengths, one, ways_single, text_eq]
      simp
  | case5 char rest plain other ih =>
      rcases Option.map_eq_some_iff.mp closes with ⟨inner, inner_closes, rfl⟩
      have lengths := unitLengths_other plain other
      rw [← text_eq] at lengths
      exact exists_ways_unit lengths (ih _ (by simp [text_eq]) inner_closes)

/-- A quoted text reaches as far as the units after its first quote and the quote after them. -/
theorem takes_of_ways_quoted (program : rule.program = (quoted quote).toProgram)
    (alone : rule.lookbehind = none) (consumes : rule.consumes = true)
    (found : ∀ reading : Reading, reading.rest = body →
      ∃ after, ((seq (star true (quotedUnit quote)) (one quote)).ways none reading).head? =
        some after ∧ after.position = reading.position + count + 1) :
    rule.Takes before (quote :: body) (count + 2) := by
  refine (Rule.takes_iff program rfl).mpr ⟨Rule.lookbehindHolds_of_none alone, ?_, by omega⟩
  rcases found ((Reading.between before (quote :: body)).skip 1) rfl with ⟨after, later, position⟩
  refine ⟨after, ?_, ?_⟩
  · rw [quoted, ways_seq_assoc, ways, one, ways_single]
    simpa [one] using later
  · rw [Rule.Gives, if_pos consumes, position, Reading.position_skip]
    simp only [Reading.between]
    omega

/-- A quoted text reaches to its first quote that is not escaped. -/
theorem takes_quoted (noEscape : quote ≠ '\\')
    (program : rule.program = (quoted quote).toProgram) (alone : rule.lookbehind = none)
    (consumes : rule.consumes = true) (closes : closingQuote? quote body = some count) :
    rule.Takes before (quote :: body) (count + 2) := by
  apply takes_of_ways_quoted program alone consumes
  intro reading text_eq
  exact exists_ways_quoted noEscape reading (text_eq ▸ closes)

def anyChars : CharClass := .union blanks (.compl blanks)

theorem contains_anyChars (char : Char) : anyChars.contains char = true := by
  simp [anyChars, CharClass.contains]

theorem comment_eq : comment = fence (seq (literal backticks) (star false (set anyChars))) :=
  rfl

theorem ways_fence (front : Expr) (reading : Reading) :
    (fence front).ways following reading =
      (seq front (literal backticks)).ways following reading := by
  have parts : (seq front (literal backticks)).ways following reading =
      (front.ways following reading).flatMap fun after =>
        (literal backticks).ways following after := rfl
  rw [parts]
  simp only [ways_literal]
  exact ways_foldl_seq front backticks reading

theorem FenceAfter.drop_one (fence : FenceAfter body (count + 1)) :
    FenceAfter (body.drop 1) count := by
  constructor
  · rw [List.drop_drop, Nat.add_comm]
    exact fence.closes
  · intro earlier less
    rw [List.drop_drop, Nat.add_comm]
    exact fence.first (earlier + 1) (Nat.succ_lt_succ less)

/-- A lazy loop before three backticks stops at the first ones. -/
theorem ways_comment (reading : Reading) (fence : FenceAfter reading.rest count) :
    ((seq (star false (set anyChars)) (literal backticks)).ways following reading).head? =
      some (reading.skip (count + 3)) := by
  induction count generalizing reading with
  | zero =>
      have here : backticks <+: reading.rest := fence.closes
      rw [ways_seq_star_lazy rfl, ways_literal, if_pos here]
      rfl
  | succ count ih =>
      have other : ¬backticks <+: reading.rest := fence.first 0 (Nat.succ_pos count)
      have remains : reading.rest.head?.any anyChars.contains = true := by
        rcases rest_eq : reading.rest with _ | ⟨char, rest⟩
        · have closes := fence.closes
          rw [rest_eq, List.drop_nil] at closes
          cases List.prefix_nil.mp closes
        · simp [contains_anyChars]
      have later := ih (reading.skip 1) fence.drop_one
      rw [ways_seq_star_lazy rfl, ways_literal, if_neg other, ways_set_eq_skip, if_pos remains,
        List.nil_append, List.flatMap_singleton, later, Reading.skip_skip]
      congr 2
      omega

/-- A comment reaches to the first three backticks after its opening ones. -/
theorem takes_comment (program : rule.program = comment.toProgram) (alone : rule.lookbehind = none)
    (consumes : rule.consumes = true) (fence : FenceAfter body count) :
    rule.Takes before (backticks ++ body) (count + 6) := by
  refine (Rule.takes_iff program rfl).mpr ⟨Rule.lookbehindHolds_of_none alone, ?_, by omega⟩
  generalize reading_eq : Reading.between before (backticks ++ body) = reading
  have text_eq : reading.rest = backticks ++ body := by rw [← reading_eq, Reading.rest_between]
  have opens : (literal backticks).ways none reading = [reading.skip 3] := by
    rw [ways_literal, text_eq, if_pos (List.prefix_append backticks body)]
    rfl
  have later : FenceAfter (reading.skip 3).rest count := by
    rw [Reading.rest_skip, text_eq]
    exact fence
  refine ⟨(reading.skip 3).skip (count + 3), ?_, ?_⟩
  · rw [comment_eq, ways_fence, ways_seq_assoc, ways, opens, List.flatMap_singleton]
    exact ways_comment (reading.skip 3) later
  · rw [Rule.Gives, if_pos consumes, Reading.position_skip, Reading.position_skip, ← reading_eq]
    simp only [Reading.between]
    omega

end RuleLexer.Bundled
