import RuleLexer.Proofs.Scan.Nesting
import RuleLexer.Proofs.Scan.Partition

/-!
# Recovery at the end of a line

A line feed that no rule matches brings the stack back to the entry state alone, whatever stood on
it. So a scan that begins in a state without rules, such as one that the table does not have, takes
the characters of its first line one by one and then goes on like any other scan; and two scans of
one text that both take the same line feed so are the same from there on.
-/

namespace RuleLexer

namespace Cursor

/-- The cursor between two parts of a text. -/
def between (before rest : List Char) (stack : StateStack) : Cursor where
  passed := before.reverse
  rest := rest
  offset := Text.byteLength before
  stack := stack
  offset_eq := by simp

variable {before rest : List Char} {stack : StateStack}

@[simp]
theorem before_between : (between before rest stack).before = before := by
  simp [between, Cursor.before]

@[simp]
theorem rest_between : (between before rest stack).rest = rest := rfl

@[simp]
theorem stack_between : (between before rest stack).stack = stack := rfl

@[simp]
theorem offset_between : (between before rest stack).offset = Text.byteLength before := rfl

theorem advance_one_between (char : Char) (stack' : StateStack) :
    (between before (char :: rest) stack).advance 1 stack' =
      between (before ++ [char]) rest stack' := by
  apply eq_of_before <;> simp

/-- Cursors at the same offset of the same text have the same text on either side. -/
theorem sides_eq_of_offset {first second : Cursor} (same : first.source = second.source)
    (here : first.offset = second.offset) :
    first.before = second.before ∧ first.rest = second.rest := by
  simp only [source_eq, offset_eq_before] at same here
  exact Text.append_inj_of_byteLength same here

end Cursor

namespace RuleTable

/-- A character as a token of its own in the fallback category, at an offset. -/
def characterToken (table : RuleTable) (offset : Nat) (char : Char) : Token :=
  ⟨table.fallback, String.ofList [char], offset, offset + char.utf8Size⟩

/-- The characters of a text, each as a token of its own, from an offset on. -/
def characterTokens (table : RuleTable) (offset : Nat) : List Char → List Token
  | [] => []
  | char :: rest =>
    table.characterToken offset char :: table.characterTokens (offset + char.utf8Size) rest

variable {table : RuleTable} {cursor start first second : Cursor} {before rest line : List Char}
  {stack : StateStack} {state : StateId} {calls calls' : Nat}

theorem characterTokens_append (offset : Nat) (front back : List Char) :
    table.characterTokens offset (front ++ back) =
      table.characterTokens offset front ++
        table.characterTokens (offset + Text.byteLength front) back := by
  induction front generalizing offset with
  | nil => simp [characterTokens]
  | cons char front ih => simp [characterTokens, ih, Nat.add_assoc]

theorem rulesFor_of_unknown (unknown : table.stateName? state = none) :
    table.rulesFor state = [] := by
  simp only [stateName?, Option.map_eq_none_iff] at unknown
  simp [rulesFor, unknown]

/-- In a state without rules, the next token is a single character. -/
theorem next?_of_noRules (before rest : List Char) (char : Char)
    (noRules : table.rulesFor stack.active = []) :
    table.next? (.between before (char :: rest) stack) =
      some (table.characterToken (Text.byteLength before) char,
        .between (before ++ [char]) rest (if char = '\n' then .single table.entry else stack)) := by
  generalize here : Cursor.between before (char :: rest) stack = cursor
  have remains : cursor.rest = char :: rest := by simp [← here]
  have none : Rule.NoneTakes (table.rulesFor cursor.stack.active) cursor.before cursor.rest := by
    intro rule mem
    simp [← here, noRules] at mem
  rw [next?_of_noneTakes remains none, ← here]
  simp [Cursor.advance_one_between, tokenAt, characterToken]

/-- In a state without rules, a line is taken character by character and the stack stays. -/
theorem steps_line_of_noRules (before rest : List Char)
    (noRules : table.rulesFor stack.active = []) (noNewline : '\n' ∉ line) :
    ∃ heads, table.steps (.between before (line ++ rest) stack) =
        heads ++ table.steps (.between (before ++ line) rest stack) ∧
      heads.map Prod.fst = table.characterTokens (Text.byteLength before) line ∧
      ∀ step ∈ heads, step.2.stack = stack := by
  induction line generalizing before with
  | nil => exact ⟨[], by simp [characterTokens]⟩
  | cons char line ih =>
      simp only [List.mem_cons, not_or] at noNewline
      have step := next?_of_noRules before (line ++ rest) char noRules
      rw [if_neg (Ne.symm noNewline.1)] at step
      rcases ih (before ++ [char]) noNewline.2 with ⟨heads, steps_eq, tokens, stays⟩
      refine ⟨(table.characterToken (Text.byteLength before) char,
        .between (before ++ [char]) (line ++ rest) stack) :: heads, ?_, ?_, ?_⟩
      · rw [List.cons_append, steps_of_some step, steps_eq]
        simp
      · simp [tokens, characterTokens]
      · simpa using stays

/-- In a state without rules, the line feed at the end of a line brings back the entry state. -/
theorem steps_lineFeed_of_noRules (before rest : List Char)
    (noRules : table.rulesFor stack.active = []) (noNewline : '\n' ∉ line)
    (single : stack.depth = 1) :
    ∃ heads, table.steps (.between before (line ++ '\n' :: rest) stack) =
        heads ++ table.steps (.between (before ++ (line ++ ['\n'])) rest (.single table.entry)) ∧
      heads.map Prod.fst = table.characterTokens (Text.byteLength before) (line ++ ['\n']) ∧
      ∀ step ∈ heads, step.2.stack.depth = 1 := by
  rcases steps_line_of_noRules before ('\n' :: rest) noRules noNewline with
    ⟨heads, steps_eq, tokens, stays⟩
  have step := next?_of_noRules (before ++ line) rest '\n' noRules
  rw [if_pos rfl] at step
  refine ⟨heads ++ [(table.characterToken (Text.byteLength (before ++ line)) '\n',
    .between (before ++ line ++ ['\n']) rest (.single table.entry))], ?_, ?_, ?_⟩
  · rw [steps_eq, steps_of_some step]
    simp
  · simp [tokens, characterTokens_append, characterTokens]
  · intro step mem
    rcases List.mem_append.mp mem with early | last
    · rw [stays step early, single]
    · rw [List.mem_singleton.mp last]
      rfl

/-- In a state without rules, the last line is taken character by character too. -/
theorem steps_lastLine_of_noRules (before : List Char)
    (noRules : table.rulesFor stack.active = []) (noNewline : '\n' ∉ line) :
    (table.steps (.between before line stack)).map Prod.fst =
        table.characterTokens (Text.byteLength before) line ∧
      ∀ step ∈ table.steps (.between before line stack), step.2.stack = stack := by
  rcases steps_line_of_noRules before [] noRules noNewline with ⟨heads, steps_eq, found⟩
  have ended : table.steps (.between (before ++ line) [] stack) = [] :=
    steps_of_none (next?_eq_none_iff.mpr rfl)
  rw [List.append_nil, ended, List.append_nil] at steps_eq
  rw [steps_eq]
  exact found

/-- Nothing but the place of an unmatched line feed determines the cursor after it. -/
theorem cursorAfter_newline (newline : table.AtUnmatchedNewline (table.cursorAfter start calls)) :
    table.cursorAfter start (calls + 1) =
      .between ((table.cursorAfter start calls).before ++ ['\n'])
        (table.cursorAfter start calls).rest.tail (.single table.entry) := by
  generalize here : table.cursorAfter start calls = cursor at newline
  rcases newline with ⟨head, none⟩
  rcases List.head?_eq_some_iff.mp head with ⟨rest, remains⟩
  have step := next?_of_noneTakes remains none
  rw [cursorAfter, here, step]
  apply Cursor.eq_of_before <;> simp [remains]

/-- Scans of one text that take the same line feed unmatched are the same after it. -/
theorem cursorAfter_eq_of_newline (same : first.source = second.source)
    (newline : table.AtUnmatchedNewline (table.cursorAfter first calls))
    (newline' : table.AtUnmatchedNewline (table.cursorAfter second calls'))
    (here : (table.cursorAfter first calls).offset = (table.cursorAfter second calls').offset)
    (later : Nat) :
    table.cursorAfter first (calls + 1 + later) = table.cursorAfter second (calls' + 1 + later) := by
  have source_eq : (table.cursorAfter first calls).source =
      (table.cursorAfter second calls').source := by
    rw [source_cursorAfter, source_cursorAfter, same]
  rcases Cursor.sides_eq_of_offset source_eq here with ⟨before_eq, rest_eq⟩
  rw [cursorAfter_add first (calls + 1), cursorAfter_add second (calls' + 1),
    cursorAfter_newline newline, cursorAfter_newline newline', before_eq, rest_eq]

/-- A scan that begins in a state that the table does not have takes the characters of the first
line, its line feed included, as tokens of their own with a single state on the stack, and then goes
on as a scan that begins there in the entry state. Two scans of one text, whatever their stacks, are
the same in tokens, offsets and stacks once both have taken the same line feed unmatched. -/
theorem scans_recover (table : RuleTable) :
    (∀ state, table.stateName? state = none → ∀ line, '\n' ∉ line →
      (∀ rest, ∃ heads, table.steps (.start (line ++ '\n' :: rest) state) =
          heads ++ table.steps (.between (line ++ ['\n']) rest (.single table.entry)) ∧
        heads.map Prod.fst = table.characterTokens 0 (line ++ ['\n']) ∧
        ∀ step ∈ heads, step.2.stack.depth = 1) ∧
      (table.steps (.start line state)).map Prod.fst = table.characterTokens 0 line ∧
        ∀ step ∈ table.steps (.start line state), step.2.stack.depth = 1) ∧
    ∀ first second : Cursor, first.source = second.source → ∀ calls calls',
      table.AtUnmatchedNewline (table.cursorAfter first calls) →
      table.AtUnmatchedNewline (table.cursorAfter second calls') →
      (table.cursorAfter first calls).offset = (table.cursorAfter second calls').offset →
        table.steps (table.cursorAfter first (calls + 1)) =
          table.steps (table.cursorAfter second (calls' + 1)) ∧
        ∀ later, table.cursorAfter first (calls + 1 + later) =
          table.cursorAfter second (calls' + 1 + later) := by
  refine ⟨?_, ?_⟩
  · intro state unknown line noNewline
    have noRules : table.rulesFor (StateStack.single state).active = [] :=
      rulesFor_of_unknown unknown
    refine ⟨?_, ?_⟩
    · intro rest
      exact steps_lineFeed_of_noRules [] rest noRules noNewline rfl
    · rcases steps_lastLine_of_noRules [] noRules noNewline with ⟨tokens, stays⟩
      refine ⟨tokens, ?_⟩
      intro step mem
      rw [stays step mem]
      rfl
  · intro first second same calls calls' newline newline' here
    have equal := cursorAfter_eq_of_newline same newline newline' here
    exact ⟨congrArg table.steps (equal 0), equal⟩

theorem scans_recover_parentheses :
    parenthesesTable.stateName? ⟨7⟩ = none ∧
      (parenthesesTable.steps (.start ['(', ')'] ⟨7⟩)).map Prod.fst =
        [⟨.plainText, "(", 0, 1⟩, ⟨.plainText, ")", 1, 2⟩] ∧
    ∃ first second : Cursor, first.source = second.source ∧
      parenthesesTable.AtUnmatchedNewline (parenthesesTable.cursorAfter first 1) ∧
      parenthesesTable.AtUnmatchedNewline (parenthesesTable.cursorAfter second 1) ∧
      (parenthesesTable.cursorAfter first 1).stack ≠
        (parenthesesTable.cursorAfter second 1).stack ∧
      parenthesesTable.cursorAfter first 3 = parenthesesTable.cursorAfter second 3 := by
  have recovers := scans_recover parenthesesTable
  have alone := (recovers.1 ⟨7⟩ rfl ['(', ')'] (by decide)).2.1
  have newline : parenthesesTable.AtUnmatchedNewline
      (parenthesesTable.cursorAfter (.start "(\n(".toList ⟨0⟩) 1) :=
    ⟨by decide, firstMatch?_eq_none_iff.mp (by decide)⟩
  have newline' : parenthesesTable.AtUnmatchedNewline
      (parenthesesTable.cursorAfter (.start "(\n(".toList ⟨1⟩) 1) :=
    ⟨by decide, firstMatch?_eq_none_iff.mp (by decide)⟩
  have equal := (recovers.2 _ _ rfl 1 1 newline newline' (by decide)).2 1
  exact ⟨rfl, alone, .start "(\n(".toList ⟨0⟩, .start "(\n(".toList ⟨1⟩, rfl, newline, newline',
    by decide, equal⟩

end RuleTable

end RuleLexer
