import RuleLexer.Proofs.Bundled.Atomic

/-!
# Keywords and the words around them

A rule for one of some words that asks for a boundary after the word takes whole runs of word
characters only, since words are made of such characters. A boundary before the word keeps the rule
from matching inside a longer word. The rule for search commands has none there, so a command is
also found at the end of a longer word.
-/

namespace RuleLexer.Bundled

open Regex Expr

variable {following : Option Char} {reading after : Reading} {char : Char} {words : List String}
  {before rest : List Char} {rule : Rule} {count : Nat} {token : Token} {text : String}

/-- Whether there is a character and it belongs to words. -/
def inWord (beside : Option Char) : Bool := WordKind.unicode.at? beside

/-- Plain characters are ASCII characters, so what has been checked for these holds of all of
them. -/
theorem forall_of_isPlain {motive : Char → Prop}
    (ascii : ∀ code < 128, isPlain (Char.ofNat code) = true → motive (Char.ofNat code))
    (plain : isPlain char = true) : motive char := by
  have ranges : isPlain char =
      ((decide ('A'.val ≤ char.val ∧ char.val ≤ 'Z'.val) ||
          (decide ('a'.val ≤ char.val) && decide (char.val ≤ 'z'.val)) ||
          (decide ('0'.val ≤ char.val) && decide (char.val ≤ '9'.val))) || char == '_') := rfl
  have small : char.toNat < 128 := by
    have bounds := plain
    simp only [ranges, Bool.or_eq_true, Bool.and_eq_true, decide_eq_true_eq, beq_iff_eq,
      UInt32.le_iff_toNat_le] at bounds
    rcases bounds with bounds | rfl
    · have same : char.val.toNat = char.toNat := rfl
      have upper : 'Z'.val.toNat = 90 := rfl
      have lower : 'z'.val.toNat = 122 := rfl
      have digit : '9'.val.toNat = 57 := rfl
      omega
    · decide
  have holds := ascii char.toNat small
  rw [Char.ofNat_toNat] at holds
  exact holds plain

theorem isWordChar_of_isPlain (plain : isPlain char = true) : Unicode.isWordChar char = true := by
  apply forall_of_isPlain ?_ plain
  decide +kernel

theorem wordChars_of_isWord {word : List Char} (isWord_word : isWord word = true) :
    word ≠ [] ∧ ∀ char ∈ word, Unicode.isWordChar char = true := by
  have plain := plain_of_isWord isWord_word
  exact ⟨plain.1, fun char mem => isWordChar_of_isPlain (plain.2 char mem)⟩

theorem mem_ways_anyOf_iff {words : List (List Char)} (nonempty : words ≠ []) :
    after ∈ (anyOf words).ways following reading ↔
      ∃ word ∈ words, word <+: reading.rest ∧ after = reading.skip word.length := by
  have literal_iff : ∀ word, after ∈ (literal word).ways following reading ↔
      word <+: reading.rest ∧ after = reading.skip word.length := by
    intro word
    rw [ways_literal, List.mem_ite_nil_right, List.mem_singleton]
  rcases words with _ | ⟨first, others⟩
  · exact absurd rfl nonempty
  · have gathered : ∀ front : Expr,
        after ∈ (others.foldl (fun words word => alt words (literal word)) front).ways following
            reading ↔
          after ∈ front.ways following reading ∨
            ∃ word ∈ others, word <+: reading.rest ∧ after = reading.skip word.length := by
      induction others with
      | nil => simp
      | cons word others ih =>
          intro front
          rw [List.foldl_cons, ih (List.cons_ne_nil _ _), ways, List.mem_append, literal_iff, or_assoc]
          simp only [List.mem_cons, exists_eq_or_imp]
    rw [anyOf, gathered, literal_iff]
    simp only [List.mem_cons, exists_eq_or_imp]

/-- A word that is a run of its own: it is made of word characters, and none comes after it. -/
theorem length_eq_of_not_inWord {word : List Char} (isPrefix : word <+: rest)
    (inside : ∀ char ∈ word, Unicode.isWordChar char = true)
    (ended : inWord (rest.drop word.length).head? = false) :
    word.length = (rest.takeWhile Unicode.isWordChar).length := by
  rcases isPrefix with ⟨tail, rfl⟩
  rw [List.takeWhile_append_of_pos inside]
  rw [List.drop_left] at ended
  rcases tail with _ | ⟨next, tail⟩
  · simp
  · rw [List.takeWhile_cons_of_neg, List.append_nil]
    simpa [inWord, WordKind.at?, WordKind.contains] using ended

theorem inWord_getLast? {word : List Char} (nonempty : word ≠ [])
    (inside : ∀ char ∈ word, Unicode.isWordChar char = true) : inWord word.getLast? = true := by
  rw [List.getLast?_eq_getLast_of_ne_nil nonempty]
  exact inside _ (List.getLast_mem nonempty)

theorem inWord_head? {word : List Char} (nonempty : word ≠ [])
    (inside : ∀ char ∈ word, Unicode.isWordChar char = true) : inWord word.head? = true := by
  rw [List.head?_eq_some_head nonempty]
  exact inside _ (List.head_mem nonempty)

theorem mem_ways_boundary_iff :
    after ∈ boundary.ways following reading ↔
      inWord reading.previous ≠ inWord (reading.rest.head?.or following) ∧ after = reading := by
  rw [boundary, ways, List.mem_ite_nil_right, List.mem_singleton]
  simp [Assertion.holds, Reading.around, inWord]

section Expressions

variable (known : words ∈ wordLists)

include known

/-- A word with a boundary after it is followed by no word character. -/
theorem mem_ways_wordBefore_iff :
    after ∈ (wordBefore words).ways none reading ↔
      ∃ word ∈ words, word.toList <+: reading.rest ∧
        inWord (reading.rest.drop word.toList.length).head? = false ∧
        after = ((reading.record .start).skip word.toList.length).record .stop := by
  rcases words_of_mem_wordLists known with ⟨nonempty, areWords⟩
  have group_iff : ∀ middle, middle ∈ (wordGroup words).ways none reading ↔
      ∃ word ∈ words, word.toList <+: reading.rest ∧
        middle = ((reading.record .start).skip word.toList.length).record .stop := by
    intro middle
    rw [wordGroup, ways, if_pos rfl, List.mem_map]
    simp only [mem_ways_anyOf_iff (List.map_eq_nil_iff.not.mpr nonempty), List.mem_map,
      Reading.rest_record]
    constructor
    · rintro ⟨inner, ⟨_, ⟨word, mem, rfl⟩, isPrefix, rfl⟩, rfl⟩
      exact ⟨word, mem, isPrefix, rfl⟩
    · rintro ⟨word, mem, isPrefix, rfl⟩
      exact ⟨_, ⟨_, ⟨word, mem, rfl⟩, isPrefix, rfl⟩, rfl⟩
  have boundary_iff : ∀ word ∈ words, word.toList <+: reading.rest → ∀ after,
      after ∈ boundary.ways none (((reading.record .start).skip word.toList.length).record .stop) ↔
        inWord (reading.rest.drop word.toList.length).head? = false ∧
          after = ((reading.record .start).skip word.toList.length).record .stop := by
    intro word mem isPrefix after
    have chars := wordChars_of_isWord (areWords word mem)
    have last : inWord (((reading.record .start).skip word.toList.length).record .stop).previous =
        true := by
      have taken : reading.rest.take word.toList.length = word.toList :=
        (List.prefix_iff_eq_take.mp isPrefix).symm
      have last := inWord_getLast? chars.1 chars.2
      rw [List.getLast?_eq_getLast_of_ne_nil chars.1] at last
      simpa [Reading.record, Reading.skip, taken, List.getLast?_eq_getLast_of_ne_nil chars.1]
        using last
    rw [mem_ways_boundary_iff, last]
    simp
  rw [wordBefore, ways, List.mem_flatMap]
  constructor
  · rintro ⟨middle, group_mem, boundary_mem⟩
    rcases (group_iff middle).mp group_mem with ⟨word, mem, isPrefix, rfl⟩
    exact ⟨word, mem, isPrefix, (boundary_iff word mem isPrefix after).mp boundary_mem⟩
  · rintro ⟨word, mem, isPrefix, ended⟩
    exact ⟨_, (group_iff _).mpr ⟨word, mem, isPrefix, rfl⟩,
      (boundary_iff word mem isPrefix after).mpr ended⟩

/-- A boundary before a word means that no word character comes before it. -/
theorem mem_ways_wholeWord_iff :
    after ∈ (wholeWord words).ways none reading ↔
      inWord reading.previous = false ∧ after ∈ (wordBefore words).ways none reading := by
  rcases words_of_mem_wordLists known with ⟨-, areWords⟩
  have begins : after ∈ (wordBefore words).ways none reading →
      inWord (reading.rest.head?.or none) = true := by
    intro mem
    rcases (mem_ways_wordBefore_iff known).mp mem with ⟨word, word_mem, ⟨tail, parts⟩, -⟩
    have chars := wordChars_of_isWord (areWords word word_mem)
    have first := inWord_head? chars.1 chars.2
    rwa [Option.or_none, ← parts, List.head?_append_of_ne_nil _ chars.1]
  rw [wholeWord, ways_seq_assoc, ways, List.mem_flatMap]
  constructor
  · rintro ⟨middle, start, later⟩
    rcases mem_ways_boundary_iff.mp start with ⟨differ, rfl⟩
    rw [begins later] at differ
    exact ⟨by simpa using differ, later⟩
  · rintro ⟨start, later⟩
    refine ⟨reading, mem_ways_boundary_iff.mpr ⟨?_, rfl⟩, later⟩
    rw [start, begins later]
    simp

end Expressions

/-- The text begins with one of the words, of `count` characters, and no word character comes after
it. -/
structure BeginsWithWord (words : List String) (rest : List Char) (count : Nat) : Prop where
  word : ∃ word ∈ words, word.toList <+: rest ∧ word.toList.length = count
  ended : inWord (rest.drop count).head? = false

theorem BeginsWithWord.length_eq (begins : BeginsWithWord words rest count)
    (known : words ∈ wordLists) : count = (rest.takeWhile Unicode.isWordChar).length := by
  rcases begins.word with ⟨word, mem, isPrefix, rfl⟩
  have chars := wordChars_of_isWord ((words_of_mem_wordLists known).2 word mem)
  exact length_eq_of_not_inWord isPrefix chars.2 begins.ended

theorem beginsWithWord_iff (known : words ∈ wordLists) (before : List Char) :
    BeginsWithWord words rest count ↔
      ∃ after ∈ (wordBefore words).ways none (.between before rest), after.position = count := by
  constructor
  · rintro ⟨⟨word, mem, isPrefix, rfl⟩, ended⟩
    refine ⟨_, (mem_ways_wordBefore_iff known).mpr ⟨word, mem, isPrefix, ended, rfl⟩, ?_⟩
    simp [Reading.record, Reading.skip, Reading.between]
  · rintro ⟨after, after_mem, rfl⟩
    rcases (mem_ways_wordBefore_iff known).mp after_mem with ⟨word, mem, isPrefix, ended, rfl⟩
    have position : ((((Reading.between before rest).record .start).skip
        word.toList.length).record .stop).position = word.toList.length := by
      simp [Reading.record, Reading.skip, Reading.between]
    rw [position]
    exact ⟨⟨word, mem, isPrefix, rfl⟩, ended⟩

section Rules

variable (known : words ∈ wordLists) (alone : rule.lookbehind = none)
  (consumes : rule.consumes = true)

include known alone consumes

/-- All ways to match a word with a boundary after it have one length, so the preferred one need not
be computed. -/
theorem takes_iff_beginsWithWord {expr : Expr} {start : Prop}
    (program : rule.program = expr.toProgram) (productive : expr.isProductive = true)
    (same : ∀ after, after ∈ expr.ways none (.between before rest) ↔
      start ∧ after ∈ (wordBefore words).ways none (.between before rest)) :
    rule.Takes before rest count ↔ start ∧ BeginsWithWord words rest count := by
  rw [Rule.takes_iff program productive]
  simp only [Rule.Gives, if_pos consumes]
  constructor
  · rintro ⟨-, ⟨after, first, position⟩, -⟩
    rcases (same after).mp (List.mem_of_mem_head? first) with ⟨starts, mem⟩
    exact ⟨starts, (beginsWithWord_iff known before).mpr ⟨after, mem, position⟩⟩
  · rintro ⟨starts, begins⟩
    refine ⟨Rule.lookbehindHolds_of_none alone, ?_, ?_⟩
    · rcases (beginsWithWord_iff known before).mp begins with ⟨way, mem, -⟩
      have found := (same way).mpr ⟨starts, mem⟩
      obtain ⟨after, first⟩ := Option.isSome_iff_exists.mp
        (List.isSome_head?.mpr (List.ne_nil_of_mem found))
      refine ⟨after, first, ?_⟩
      have mem' := ((same after).mp (List.mem_of_mem_head? first)).2
      have begins' := (beginsWithWord_iff known before).mpr ⟨after, mem', rfl⟩
      rw [begins'.length_eq known, begins.length_eq known]
    · rcases begins.word with ⟨word, mem, -, rfl⟩
      have plain := plain_of_isWord ((words_of_mem_wordLists known).2 word mem)
      exact List.length_pos_of_ne_nil plain.1

/-- A rule for words with a boundary after them takes a word that ends there, wherever it begins. -/
theorem takes_wordBefore_iff (program : rule.program = (wordBefore words).toProgram) :
    rule.Takes before rest count ↔ BeginsWithWord words rest count := by
  have productive : (wordBefore words).isProductive = true := by
    simp [wordBefore, wordGroup, boundary, isProductive, isProductive_anyOf]
  have takes : rule.Takes before rest count ↔ True ∧ BeginsWithWord words rest count := by
    apply takes_iff_beginsWithWord known alone consumes program productive
    intro after
    rw [true_and]
  rwa [true_and] at takes

/-- A rule for words between boundaries takes a word that begins and ends there. -/
theorem takes_wholeWord_iff (program : rule.program = (wholeWord words).toProgram) :
    rule.Takes before rest count ↔
      inWord before.getLast? = false ∧ BeginsWithWord words rest count := by
  have productive : (wholeWord words).isProductive = true := by
    simp [wholeWord, wordGroup, boundary, isProductive, isProductive_anyOf]
  exact takes_iff_beginsWithWord known alone consumes program productive
    fun _ => mem_ways_wholeWord_iff known

end Rules

/-- The rules that give keywords: that for search commands, and rules for words between
boundaries. -/
theorem keyword_cases (mem : rule ∈ splCompiled)
    (category : rule.category = .keyword ∨ rule.category = .keywordConstant) :
    rule.lookbehind = none ∧ rule.consumes = true ∧
      (rule.category = .keyword ∧ rule.program = (wordBefore searchCommands).toProgram ∨
        ∃ words ∈ wordLists, rule.program = (wholeWord words).toProgram) := by
  rcases exists_position_of_mem mem with ⟨index, position, present⟩
  rcases category with category | category
  · rw [category, show positionsOf .keyword = [0, 3, 8] from rfl] at position
    simp only [List.mem_cons, List.not_mem_nil, or_false] at position
    rcases position with rfl | rfl | rfl
    · cases present
      exact ⟨rfl, rfl, Or.inl ⟨rfl, rfl⟩⟩
    · cases present
      exact ⟨rfl, rfl, Or.inr ⟨internalCommands, by simp [wordLists], rfl⟩⟩
    · cases present
      exact ⟨rfl, rfl, Or.inr ⟨clauseKeywords, by simp [wordLists], rfl⟩⟩
  · rw [category] at position
    obtain rfl : index = 9 := List.mem_singleton.mp position
    cases present
    exact ⟨rfl, rfl, Or.inr ⟨constants, by simp [wordLists], rfl⟩⟩

/-- A keyword is one of the words of its rule. If a word character comes before it, the rule is that
for search commands. -/
theorem beginsWithWord_of_takes (mem : rule ∈ splCompiled)
    (keyword : rule.category = .keyword ∨ rule.category = .keywordConstant)
    (takes : rule.Takes before rest count) :
    ∃ words, BeginsWithWord words rest count ∧
      (inWord before.getLast? = true → rule.category = .keyword ∧ words = searchCommands) := by
  rcases keyword_cases mem keyword with ⟨alone, consumes, commands | between⟩
  · rcases commands with ⟨isKeyword, program⟩
    have known : searchCommands ∈ wordLists := by simp [wordLists]
    have begins := (takes_wordBefore_iff known alone consumes program).mp takes
    exact ⟨searchCommands, begins, fun _ => ⟨isKeyword, rfl⟩⟩
  · rcases between with ⟨words, known, program⟩
    rcases (takes_wholeWord_iff known alone consumes program).mp takes with ⟨starts, begins⟩
    refine ⟨words, begins, ?_⟩
    intro inside
    rw [starts] at inside
    cases inside

/-- No word character comes after a keyword, and one comes before it only if it is a search
command. -/
theorem keyword_delimited {table : RuleTable} (built : RuleTable.build spl = .ok table)
    (mem : token ∈ table.tokenize text)
    (keyword : token.category = .keyword ∨ token.category = .keywordConstant) :
    ∃ before rest, text.toList = before ++ (token.text.toList ++ rest) ∧
      token.start = Text.byteLength before ∧ inWord rest.head? = false ∧
      (inWord before.getLast? = true → token.category = .keyword ∧ token.text ∈ searchCommands) := by
  cases eq_splTable built
  rcases List.mem_iff_getElem?.mp mem with ⟨place, present⟩
  rcases exists_step_of_tokenize present with ⟨cursor, after, stack, source, step, -⟩
  have other : token.category ≠ .plainText := by
    intro same
    simp [same] at keyword
  rcases exists_rule_of_next? stack step other with
    ⟨rule, rule_mem, category, count, takes, -, text_eq⟩
  rw [← category] at keyword ⊢
  rcases beginsWithWord_of_takes rule_mem keyword takes with ⟨words, begins, command⟩
  refine ⟨cursor.before, cursor.rest.drop count, ?_, ?_, begins.ended, ?_⟩
  · rw [text_eq, List.take_append_drop, ← Cursor.source_eq, source]
  · rw [RuleTable.start_of_next? step, Cursor.offset_eq_before]
  · intro inside
    rcases command inside with ⟨isKeyword, rfl⟩
    rcases begins.word with ⟨word, word_mem, isPrefix, rfl⟩
    have same : token.text = word := by
      rw [← String.toList_inj, text_eq, ← List.prefix_iff_eq_take.mp isPrefix]
    exact ⟨isKeyword, same ▸ word_mem⟩

theorem exists_firstTakes_set (before : List Char) (ended : inWord rest.head? = false) :
    ∃ rule, Rule.FirstTakes splCompiled before ('s' :: 'e' :: 't' :: rest) 0 rule 3 ∧
      rule.category = .keyword := by
  have known : searchCommands ∈ wordLists := by simp [wordLists]
  have begins : BeginsWithWord searchCommands ('s' :: 'e' :: 't' :: rest) 3 := by
    refine ⟨⟨"set", by decide, ?_, rfl⟩, ended⟩
    exact List.prefix_append ['s', 'e', 't'] rest
  refine ⟨_, ⟨rfl, (takes_wordBefore_iff known rfl rfl rfl).mpr begins, ?_⟩, rfl⟩
  intro rule mem
  cases mem

theorem keyword_delimited_set :
    ∃ table token, RuleTable.build spl = .ok table ∧ token ∈ table.tokenize "|set x" ∧
      (token.category = .keyword ∨ token.category = .keywordConstant) ∧
      token.text = "set" ∧ token.start = 1 ∧
      ∃ before rest, "|set x".toList = before ++ (token.text.toList ++ rest) ∧
        token.start = Text.byteLength before ∧ inWord rest.head? = false ∧
        (inWord before.getLast? = true → token.category = .keyword ∧ token.text ∈ searchCommands) := by
  obtain ⟨index, bar, first, -⟩ : ∃ index bar,
      Rule.FirstTakes splCompiled [] "|set x".toList index bar 1 ∧ bar.category = .operator :=
    exists_firstTakes_sign List.mem_cons_self rfl
  have present := getElem?_zero_of_firstTakes first
  have ended : inWord [' ', 'x'].head? = false := by decide +kernel
  rcases exists_firstTakes_set ['|'] ended with ⟨rule, first', category⟩
  rcases exists_next_of_firstTakes present rfl rfl first' with ⟨token, mem, next⟩
  have keyword : token.category = .keyword ∨ token.category = .keywordConstant := by
    left
    rw [next.category_eq, category]
  have text_eq : token.text = "set" := by
    rw [← String.toList_inj, next.text_eq]
    rfl
  exact ⟨splTable, token, build_spl, mem, keyword, text_eq, next.start_eq,
    keyword_delimited build_spl mem keyword⟩

theorem noneTakes_underscore :
    Rule.NoneTakes splCompiled [] ['_', 's', 'e', 't'] := by
  have flags : ∀ earlier < 17, earlier ≠ 10 → earlier ≠ 11 →
      (mayBeginFlags '_')[earlier]? = some false := by
    decide +kernel
  have none : Rule.NoneTakes (splCompiled.take 17) [] ['_', 's', 'e', 't'] := by
    apply noneTakes_unless_parameter rfl (by decide) (Or.inr not_standsAsParameter_nil)
    intro earlier less parameter
    by_cases isField : earlier = 11
    · right
      intro rule present count takes
      subst isField
      cases present
      rcases takes.lookahead rfl rfl rfl (endsGroup_group _) with ⟨char, next, inside⟩
      rw [CharClass.contains_single, decide_eq_true_eq] at inside
      have mem := List.mem_of_mem_drop (List.mem_of_head? next)
      rw [inside] at mem
      revert mem
      decide
    · exact Or.inl (flags earlier less parameter isField)
  exact none

theorem command_ends_longer_word :
    ∃ table token before, RuleTable.build spl = .ok table ∧ token ∈ table.tokenize "_set" ∧
      token.category = .keyword ∧ "_set".toList = before ++ token.text.toList ∧
        token.start = Text.byteLength before ∧ inWord before.getLast? = true := by
  have none : Rule.NoneTakes splCompiled [] "_set".toList := noneTakes_underscore
  obtain ⟨rule, first, category⟩ : ∃ rule, Rule.FirstTakes splCompiled ['_'] ['s', 'e', 't'] 0 rule 3 ∧
      rule.category = .keyword := exists_firstTakes_set ['_'] rfl
  have present := getElem?_zero_of_noneTakes rfl none
  rcases exists_next_of_firstTakes present rfl rfl first with ⟨token, mem, next⟩
  refine ⟨splTable, token, ['_'], build_spl, mem, ?_, ?_, next.start_eq, by decide +kernel⟩
  · rw [next.category_eq, category]
  · rw [next.text_eq]
    rfl

end RuleLexer.Bundled
