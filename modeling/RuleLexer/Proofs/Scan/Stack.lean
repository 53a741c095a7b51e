import RuleLexer.Proofs.RuleTable.Targets
import RuleLexer.Proofs.Scan.Run

/-!
# The stack of states during a scan

What one call of the scanner does to the stack, and from it what holds of the stack after any number
of calls: all states on it belong to the table, its bottom is the state in which the scan began
until a line feed that no rule matches brings the entry state there, and it is no deeper than one
state for every token since then and one more.
-/

namespace RuleLexer

namespace Transition

variable {states : List StateId} {transition : Option Transition} {state : StateId}

theorem mem_applyTo (mem : state ∈ applyTo states transition) :
    state ∈ states ∨ transition = some (.push state) := by
  rcases transition with _ | (target | _)
  · exact Or.inl mem
  · rcases List.mem_cons.mp mem with rfl | old
    · exact Or.inr rfl
    · exact Or.inl old
  · rw [applyTo] at mem
    split at mem
    · exact Or.inl mem
    · exact Or.inl (List.mem_of_mem_tail mem)

theorem getLast?_applyTo (nonempty : states ≠ []) :
    (applyTo states transition).getLast? = states.getLast? := by
  rcases List.exists_cons_of_ne_nil nonempty with ⟨active, below, rfl⟩
  rcases transition with _ | (target | _)
  · rfl
  · simp [applyTo, List.getLast?_cons_cons]
  · rcases below with _ | ⟨next, below⟩
    · rfl
    · simp [applyTo, List.getLast?_cons_cons]

theorem length_applyTo_le : (applyTo states transition).length ≤ states.length + 1 := by
  rcases transition with _ | (target | _)
  · simp [applyTo]
  · simp [applyTo]
  · rw [applyTo]
    split
    · simp
    · rw [List.length_tail]
      omega

end Transition

namespace RuleTable

/-- The next call takes a line feed that no rule matches. -/
def AtUnmatchedNewline (table : RuleTable) (cursor : Cursor) : Prop :=
  cursor.rest.head? = some '\n' ∧
    Rule.NoneTakes (table.rulesFor cursor.stack.active) cursor.before cursor.rest

/-- The cursor after a number of calls; a call at the end of the text changes nothing. -/
def cursorAfter (table : RuleTable) (cursor : Cursor) : Nat → Cursor
  | 0 => cursor
  | calls + 1 =>
    match table.next? (table.cursorAfter cursor calls) with
    | some (_, after) => after
    | none => table.cursorAfter cursor calls

/-- The number of tokens that the calls from `first` on and before `last` give. -/
def tokenCount (table : RuleTable) (cursor : Cursor) (first last : Nat) : Nat :=
  (List.range' first (last - first)).countP fun call =>
    (table.next? (table.cursorAfter cursor call)).isSome

variable {table : RuleTable} {cursor after start : Cursor} {token : Token} {calls since : Nat}

theorem source_cursorAfter (start : Cursor) (calls : Nat) :
    (table.cursorAfter start calls).source = start.source := by
  induction calls with
  | zero => rfl
  | succ calls ih =>
      rw [cursorAfter]
      split
      · rename_i token after step
        rw [source_of_next? step, ih]
      · exact ih

theorem cursorAfter_add (start : Cursor) (calls later : Nat) :
    table.cursorAfter start (calls + later) =
      table.cursorAfter (table.cursorAfter start calls) later := by
  induction later with
  | zero => rfl
  | succ later ih => simp only [Nat.add_eq, cursorAfter, ih]

theorem stack_of_next? (step : table.next? cursor = some (token, after)) :
    (table.AtUnmatchedNewline cursor ∧ after.stack.toList = [table.entry]) ∨
      (¬table.AtUnmatchedNewline cursor ∧ ∃ transition,
        after.stack.toList = Transition.applyTo cursor.stack.toList transition ∧
          ∀ target, transition = some (.push target) →
            ∃ rule ∈ table.rulesFor cursor.stack.active,
              rule.transition = some (.push target)) := by
  rcases exists_step_of_next? step with ⟨taken, remains, -, -, step⟩
  rw [AtUnmatchedNewline, remains]
  rw [StateStack.toList] at step
  generalize states'_eq : after.stack.toList = states' at step
  generalize token.category = category at step
  cases step with
  | matched first =>
      rename_i index rule
      have present := List.mem_of_getElem? first.present
      refine Or.inr ⟨?_, rule.transition, rfl, ?_⟩
      · rintro ⟨-, none⟩
        exact none rule present _ first.takes
      · intro target leads
        exact ⟨rule, present, leads⟩
  | unmatched single none =>
      rename_i char
      subst single
      by_cases newline : char = '\n'
      · exact Or.inl ⟨⟨by simp [newline], none⟩, if_pos newline⟩
      · refine Or.inr ⟨?_, Option.none, ?_, by simp⟩
        · rintro ⟨head, -⟩
          simp [newline] at head
        · rw [if_neg newline]
          rfl

/-- All states of the stack belong to the table. -/
theorem stack_inside_of_next? (closed : table.Closed)
    (inside : ∀ level ∈ cursor.stack.toList, level.index < table.stateCount)
    (step : table.next? cursor = some (token, after)) :
    ∀ level ∈ after.stack.toList, level.index < table.stateCount := by
  intro level mem
  rcases stack_of_next? step with ⟨-, reset⟩ | ⟨-, transition, changed, targets⟩
  · rw [reset, List.mem_singleton] at mem
    rw [mem]
    exact closed.entry
  · rw [changed] at mem
    rcases Transition.mem_applyTo mem with old | pushed
    · exact inside level old
    · rcases targets level pushed with ⟨rule, present, leads⟩
      exact closed.targets _ rule present level leads

theorem stack_inside_cursorAfter (closed : table.Closed)
    (inside : ∀ level ∈ start.stack.toList, level.index < table.stateCount) (calls : Nat) :
    ∀ level ∈ (table.cursorAfter start calls).stack.toList, level.index < table.stateCount := by
  induction calls with
  | zero => exact inside
  | succ calls ih =>
      rw [cursorAfter]
      split
      · rename_i token after step
        exact stack_inside_of_next? closed ih step
      · exact ih

theorem not_atUnmatchedNewline_of_ended (ended : table.next? cursor = none) :
    ¬table.AtUnmatchedNewline cursor := by
  rintro ⟨head, -⟩
  rw [next?_eq_none_iff.mp ended] at head
  cases head

theorem bottom_cursorAfter_succ (start : Cursor) (calls : Nat) :
    (table.AtUnmatchedNewline (table.cursorAfter start calls) ∧
        (table.cursorAfter start (calls + 1)).stack.toList.getLast? = some table.entry) ∨
      (¬table.AtUnmatchedNewline (table.cursorAfter start calls) ∧
        (table.cursorAfter start (calls + 1)).stack.toList.getLast? =
          (table.cursorAfter start calls).stack.toList.getLast?) := by
  rw [cursorAfter]
  split
  · rename_i token after step
    rcases stack_of_next? step with ⟨newline, reset⟩ | ⟨other, transition, changed, -⟩
    · rw [reset]
      exact Or.inl ⟨newline, rfl⟩
    · rw [changed, Transition.getLast?_applyTo (by simp [StateStack.toList])]
      exact Or.inr ⟨other, rfl⟩
  · rename_i ended
    exact Or.inr ⟨not_atUnmatchedNewline_of_ended ended, rfl⟩

theorem bottom_of_noneReset
    (none : ∀ call < calls, ¬table.AtUnmatchedNewline (table.cursorAfter start call)) :
    (table.cursorAfter start calls).stack.toList.getLast? = start.stack.toList.getLast? := by
  induction calls with
  | zero => rfl
  | succ calls ih =>
      rcases bottom_cursorAfter_succ start calls with ⟨newline, -⟩ | ⟨-, same⟩
      · exact absurd newline (none calls (Nat.lt_succ_self calls))
      · rw [same]
        exact ih fun call before => none call (Nat.lt_succ_of_lt before)

theorem bottom_of_reset
    (reset : ∃ call < calls, table.AtUnmatchedNewline (table.cursorAfter start call)) :
    (table.cursorAfter start calls).stack.toList.getLast? = some table.entry := by
  induction calls with
  | zero =>
      rcases reset with ⟨call, before, -⟩
      omega
  | succ calls ih =>
      rcases bottom_cursorAfter_succ start calls with ⟨-, entry⟩ | ⟨other, same⟩
      · exact entry
      · rw [same]
        rcases reset with ⟨call, before, newline⟩
        refine ih ⟨call, ?_, newline⟩
        have different : call ≠ calls := fun equal => other (equal ▸ newline)
        omega

theorem tokenCount_self (start : Cursor) (since : Nat) : table.tokenCount start since since = 0 := by
  simp [tokenCount]

theorem tokenCount_succ (start : Cursor) (le : since ≤ calls) :
    table.tokenCount start since (calls + 1) = table.tokenCount start since calls +
      if (table.next? (table.cursorAfter start calls)).isSome then 1 else 0 := by
  have length_eq : calls + 1 - since = calls - since + 1 := by omega
  have last : since + (calls - since) = calls := by omega
  rw [tokenCount, length_eq, List.range'_concat, List.countP_append, Nat.one_mul, last,
    List.countP_singleton]
  rfl

theorem depth_cursorAfter_succ (table : RuleTable) (start : Cursor) (calls : Nat) :
    (table.cursorAfter start (calls + 1)).stack.depth ≤
      (table.cursorAfter start calls).stack.depth +
        if (table.next? (table.cursorAfter start calls)).isSome then 1 else 0 := by
  rw [cursorAfter]
  split
  · rename_i token after step
    rw [step, Option.isSome_some, if_pos rfl]
    rw [← StateStack.length_toList, ← StateStack.length_toList]
    rcases stack_of_next? step with ⟨-, reset⟩ | ⟨-, transition, changed, -⟩
    · simp [reset]
    · rw [changed]
      exact Transition.length_applyTo_le
  · rename_i ended
    simp [ended]

/-- The depth grows by at most one for every token. -/
theorem depth_le_tokenCount (table : RuleTable) (start : Cursor) (le : since ≤ calls) :
    (table.cursorAfter start calls).stack.depth ≤
      (table.cursorAfter start since).stack.depth + table.tokenCount start since calls := by
  induction le with
  | refl => simp [tokenCount_self]
  | @step calls le ih =>
      have grows := table.depth_cursorAfter_succ start calls
      rw [Nat.succ_eq_add_one, tokenCount_succ start le]
      omega

/-- After a line feed that no rule matches, the entry state stands alone. -/
theorem depth_after_reset (newline : table.AtUnmatchedNewline (table.cursorAfter start calls)) :
    (table.cursorAfter start (calls + 1)).stack.depth = 1 := by
  rw [cursorAfter]
  split
  · rename_i token after step
    rcases stack_of_next? step with ⟨-, reset⟩ | ⟨other, -⟩
    · rw [← StateStack.length_toList, reset]
      rfl
    · exact absurd newline other
  · rename_i ended
    exact absurd newline (not_atUnmatchedNewline_of_ended ended)

/-- What holds of the stack after a number of calls. -/
structure SoundStack (table : RuleTable) (start : Cursor) (calls : Nat) : Prop where
  nonempty : (table.cursorAfter start calls).stack.toList ≠ []
  /-- Every state on the stack has a position, a name and a list of rules in the table. -/
  inside : ∀ level ∈ (table.cursorAfter start calls).stack.toList,
    level.index < table.stateCount ∧ ∃ name, table.stateName? level = some name ∧
      table.states.get? level.index = some (name, table.rulesFor level)
  bottom_start : (∀ call < calls, ¬table.AtUnmatchedNewline (table.cursorAfter start call)) →
    (table.cursorAfter start calls).stack.toList.getLast? = some start.stack.active
  bottom_entry : (∃ call < calls, table.AtUnmatchedNewline (table.cursorAfter start call)) →
    (table.cursorAfter start calls).stack.toList.getLast? = some table.entry
  /-- The calls are counted from the start or from a line feed that no rule matched. -/
  depth_le : ∀ since ≤ calls,
    (since = 0 ∨ ∃ call, since = call + 1 ∧
      table.AtUnmatchedNewline (table.cursorAfter start call)) →
    (table.cursorAfter start calls).stack.depth ≤ 1 + table.tokenCount start since calls

/-- In the table of a definition with fewer than `2 ^ 32` states, the entry state is a state of the
table, and a scan that begins in any state of the table keeps its stack sound. -/
theorem soundStack_cursorAfter {definition : Definition} (built : build definition = .ok table)
    (few : definition.states.size < 0x100000000) :
    table.entry.index < table.stateCount ∧
      ∀ state, state.index < table.stateCount → ∀ text : String, ∀ calls,
        table.SoundStack (.start text.toList state) calls := by
  have closed := (build_eq_ok_iff.mp built).closed few
  refine ⟨closed.entry, ?_⟩
  intro state inside text calls
  have startInside : ∀ level ∈ (Cursor.start text.toList state).stack.toList,
      level.index < table.stateCount := by
    intro level mem
    rw [Cursor.start, StateStack.toList_single, List.mem_singleton] at mem
    rw [mem]
    exact inside
  constructor
  · simp [StateStack.toList]
  · intro level mem
    have levelInside := stack_inside_cursorAfter closed startInside calls level mem
    exact ⟨levelInside, get?_of_lt_stateCount levelInside⟩
  · intro none
    rw [bottom_of_noneReset none]
    rfl
  · exact bottom_of_reset
  · intro since le origin
    have alone : (table.cursorAfter (.start text.toList state) since).stack.depth = 1 := by
      rcases origin with rfl | ⟨call, rfl, newline⟩
      · rfl
      · exact depth_after_reset newline
    have grows := table.depth_le_tokenCount (.start text.toList state) le
    omega

/-- A definition whose inner state is entered at every opening parenthesis and left at a closing
one. -/
def parentheses : Definition where
  states :=
    { entries :=
        [("root", [{ pattern := "[(]", category := .operator, next := some "inner" }]),
         ("inner", [{ pattern := "[(]", category := .operator, next := some "inner" },
           { pattern := "[)]", category := .operator, next := some "#pop" }])]
      nodup_keys := by decide }

theorem soundStack_parentheses : ∃ table, build parentheses = .ok table ∧
    parentheses.states.size < 0x100000000 ∧ (⟨1⟩ : StateId).index < table.stateCount ∧
      (table.cursorAfter (.start "((\n)".toList ⟨1⟩) 2).stack.depth = 3 ∧
        table.SoundStack (.start "((\n)".toList ⟨1⟩) 4 := by
  have few : parentheses.states.size < 0x100000000 := by decide
  have sound := soundStack_cursorAfter (show build parentheses = .ok _ from rfl) few
  refine ⟨_, rfl, few, by decide, by decide, ?_⟩
  exact sound.2 ⟨1⟩ (by decide) "((\n)" 4

end RuleTable

end RuleLexer
