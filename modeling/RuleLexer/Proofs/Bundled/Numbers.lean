import RuleLexer.Proofs.Bundled.Keywords

/-!
# Numbers

A number is a run of digits that is a word of its own. The boundaries on both sides leave the rule
only one way to match: inside the run no boundary is found, since digits belong to words, so a run
cannot be cut short. No rule before it begins with a digit.
-/

namespace RuleLexer.Bundled

open Regex Expr

variable {following : Option Char} {reading after : Reading} {char : Char}
  {before rest : List Char} {rule : Rule} {count : Nat} {token : Token} {text : String}

/-- The length of the longest run of decimal digits. -/
def digitRun (text : List Char) : Nat := (text.takeWhile Unicode.isDecimalDigit).length

/-- The text goes on with a digit, no word character comes before it, and none comes after the
longest run of digits. -/
structure StandsAsNumber (before rest : List Char) : Prop where
  digit : ∃ char, rest.head? = some char ∧ Unicode.isDecimalDigit char = true
  behind : inWord before.getLast? = false
  ahead : inWord (rest.drop (digitRun rest)).head? = false

theorem isWordChar_of_isDecimalDigit (digit : Unicode.isDecimalDigit char = true) :
    Unicode.isWordChar char = true := by
  simp [Unicode.isWordChar, digit]

theorem any_isDecimalDigit_of_not_inWord {beside : Option Char} (outside : inWord beside = false) :
    beside.any Unicode.isDecimalDigit = false := by
  rcases beside with _ | char
  · rfl
  · rw [Option.any_some, ← Bool.not_eq_true]
    intro digit
    have inside : inWord (some char) = true := isWordChar_of_isDecimalDigit digit
    rw [outside] at inside
    cases inside

theorem isAlpha_of_isDecimalDigit (digit : Unicode.isDecimalDigit char = true) :
    char.isAlpha = false := by
  rw [← Bool.not_eq_true]
  intro letter
  have plain : isPlain char = true := by simp [isPlain, Char.isAlphanum, letter]
  have apart : char.isAlpha = true → Unicode.isDecimalDigit char = false := by
    apply forall_of_isPlain ?_ plain
    decide +kernel
  rw [apart letter] at digit
  cases digit

theorem digitRun_pos_iff :
    0 < digitRun rest ↔ ∃ char, rest.head? = some char ∧ Unicode.isDecimalDigit char = true := by
  rcases rest with _ | ⟨char, rest⟩
  · simp [digitRun]
  · by_cases digit : Unicode.isDecimalDigit char = true
    · simp [digitRun, digit]
    · simp [digitRun, digit]

theorem inWord_getLast?_take (within : count ≤ digitRun rest) (nonempty : 0 < count) :
    inWord (rest.take count).getLast? = true := by
  have taken : rest.take count = (rest.takeWhile Unicode.isDecimalDigit).take count := by
    have run : rest.take (digitRun rest) = rest.takeWhile Unicode.isDecimalDigit :=
      digits.take_runLength rest
    rw [← run, List.take_take, Nat.min_eq_left within]
  apply inWord_getLast?
  · apply List.ne_nil_of_length_pos
    rwa [taken, List.length_take_of_le within]
  · intro char mem
    rw [taken] at mem
    apply isWordChar_of_isDecimalDigit
    exact List.all_eq_true.mp List.all_takeWhile char (List.mem_of_mem_take mem)

/-- A number matches in one way only, up to the end of the run of digits. -/
theorem mem_ways_number_iff :
    after ∈ number.ways none reading ↔
      (inWord reading.previous = false ∧ 0 < digitRun reading.rest ∧
        inWord (reading.rest.drop (digitRun reading.rest)).head? = false) ∧
          after = reading.skip (digitRun reading.rest) := by
  have ended_iff : ∀ count, 0 < count → count ≤ digitRun reading.rest → ∀ after,
      after ∈ boundary.ways none (reading.skip count) ↔
        inWord (reading.rest.drop count).head? = false ∧ after = reading.skip count := by
    intro count nonempty within after
    have last := inWord_getLast?_take within nonempty
    have previous : inWord (reading.skip count).previous = true := by
      rcases last_eq : (reading.rest.take count).getLast? with _ | char
      · rw [last_eq] at last
        cases last
      · rw [last_eq] at last
        simpa [Reading.skip, last_eq] using last
    rw [mem_ways_boundary_iff, previous]
    simp
  have begins : 0 < digitRun reading.rest → inWord reading.rest.head? = true := by
    intro nonempty
    rcases digitRun_pos_iff.mp nonempty with ⟨char, head, digit⟩
    rw [head]
    exact isWordChar_of_isDecimalDigit digit
  rw [number, mem_ways_seq_iff]
  constructor
  · rintro ⟨middle, opened, stop⟩
    rcases mem_ways_seq_iff.mp opened with ⟨start, opens, run⟩
    rcases mem_ways_boundary_iff.mp opens with ⟨differ, rfl⟩
    rcases mem_ways_run_iff.mp run with ⟨shorter, within, rfl⟩
    rcases (ended_iff (shorter + 1) (Nat.succ_pos shorter) within after).mp stop with ⟨ended, rfl⟩
    have whole : shorter + 1 = digits.runLength start.rest :=
      eq_runLength_of_ended within (any_isDecimalDigit_of_not_inWord ended)
    change shorter + 1 = digitRun start.rest at whole
    have nonempty : 0 < digitRun start.rest := by omega
    rw [Option.or_none, begins nonempty] at differ
    rw [whole] at ended ⊢
    exact ⟨⟨by simpa using differ, nonempty, ended⟩, rfl⟩
  · rintro ⟨⟨behind, nonempty, ahead⟩, rfl⟩
    refine ⟨reading.skip (digitRun reading.rest), ?_, ?_⟩
    · apply mem_ways_seq_iff.mpr
      refine ⟨reading, mem_ways_boundary_iff.mpr ⟨?_, rfl⟩, mem_ways_run_iff.mpr ?_⟩
      · rw [behind, Option.or_none, begins nonempty]
        simp
      · refine ⟨digitRun reading.rest - 1, ?_, ?_⟩
        · exact Nat.sub_lt nonempty Nat.one_pos
        · rw [Nat.sub_add_cancel nonempty]
    · exact (ended_iff _ nonempty (Nat.le_refl _) _).mpr ⟨ahead, rfl⟩

/-- The rule for numbers takes the longest run of digits, where it stands as a number. -/
theorem takes_number_iff (present : splCompiled[5]? = some rule) :
    rule.Takes before rest count ↔ StandsAsNumber before rest ∧ count = digitRun rest := by
  cases present
  rw [Rule.takes_iff_of_preferred rfl rfl rfl rfl
    fun _ => head?_eq_some_iff_of_only fun _ => mem_ways_number_iff]
  constructor
  · rintro ⟨⟨behind, nonempty, ahead⟩, -, same⟩
    exact ⟨⟨digitRun_pos_iff.mp nonempty, behind, ahead⟩, same⟩
  · rintro ⟨stands, rfl⟩
    have nonempty := digitRun_pos_iff.mpr stands.digit
    exact ⟨⟨stands.behind, nonempty, stands.ahead⟩, nonempty, rfl⟩

/-- No rule before the one for numbers begins with a digit. -/
theorem exists_firstTakes_number (stands : StandsAsNumber before rest) :
    ∃ rule, Rule.FirstTakes splCompiled before rest 5 rule (digitRun rest) ∧
      rule.category = .number := by
  rcases stands.digit with ⟨char, next, digit⟩
  refine ⟨_, ⟨rfl, (takes_number_iff rfl).mpr ⟨stands, rfl⟩, ?_⟩, rfl⟩
  have name : macroName.mayBegin char = false := by
    have backtick : Unicode.isDecimalDigit '\x60' = false := by decide +kernel
    suffices other : char ≠ '\x60' by simp [macroName, one, mayBegin, consumes, other]
    rintro rfl
    rw [backtick] at digit
    cases digit
  have flags : (mayBeginFlags char).take 5 = [false, false, false, false, false] := by
    simp [mayBeginFlags, name]
  apply noneTakes_take next (isAlpha_of_isDecimalDigit digit)
  intro earlier less
  left
  rw [← List.getElem?_take_of_lt less, flags]
  revert earlier
  decide

/-- A token is a number exactly where a run of digits stands as a word of its own, and then it is
the whole run. -/
theorem number_iff_standsAsNumber {table : RuleTable} (built : RuleTable.build spl = .ok table)
    (mem : token ∈ table.tokenize text) (parts : text.toList = before ++ rest)
    (start : token.start = Text.byteLength before) :
    (token.category = .number ↔ StandsAsNumber before rest) ∧
      (token.category = .number → IsNext token .number before rest (digitRun rest)) := by
  cases eq_splTable built
  have taken : StandsAsNumber before rest → IsNext token .number before rest (digitRun rest) := by
    intro stands
    rcases exists_firstTakes_number stands with ⟨rule, first, category⟩
    rw [← category]
    exact isNext_of_firstTakes mem parts start first
  have stands : token.category = .number → StandsAsNumber before rest := by
    intro number
    rcases exists_step_at mem parts start with ⟨cursor, after, rfl, rfl, stack, step⟩
    rcases exists_firstTakes_of_category stack step (by rw [number]; decide)
      (by rw [number]; rfl) with ⟨rule, count, first, -⟩
    exact ((takes_number_iff first.present).mp first.takes).1
  exact ⟨⟨stands, fun here => (taken here).category_eq⟩, fun number => taken (stands number)⟩

theorem number_iff_standsAsNumber_mixed :
    ∃ table token, RuleTable.build spl = .ok table ∧ token ∈ table.tokenize "4\u0662=a1" ∧
      token.start = 0 ∧ StandsAsNumber [] "4\u0662=a1".toList ∧
        IsNext token .number [] "4\u0662=a1".toList 2 := by
  have stands : StandsAsNumber [] "4\u0662=a1".toList := by
    refine ⟨⟨'4', rfl, ?_⟩, rfl, ?_⟩
    · decide +kernel
    · decide +kernel
  rcases exists_firstTakes_number stands with ⟨rule, first, -⟩
  have mem := List.mem_of_getElem? (getElem?_zero_of_firstTakes first)
  have number := number_iff_standsAsNumber build_spl mem rfl (show _ = Text.byteLength [] from rfl)
  have length : digitRun "4\u0662=a1".toList = 2 := by decide +kernel
  exact ⟨splTable, _, build_spl, mem, rfl, stands, length ▸ number.2 (number.1.mpr stands)⟩

end RuleLexer.Bundled
